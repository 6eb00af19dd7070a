import EspHosted.Driver.PrioQueue

/-!
# Flow control of the SPI full-duplex slave

The slave has no packets of its own for flow control. Every buffer that it sends has a
`throttle_cmd` in its header, and the host takes over whatever the header of the last buffer
says. The slave decides by the fill level of its receive queue, with hysteresis: for a dummy
when the dummy is composed, for a packet when `esp_spi_write` composes it.

* `processed_agree_iff`: the host follows the decision for a buffer exactly if the buffer is a
  dummy or the decision was not to throttle, for a packet never has it in its header; a packet
  with a wrong checksum leaves everything as it is;
* `throttle_agree`: so the host follows every decision as long as packets are composed only
  while the slave does not throttle, and arrive with their checksums.
-/

namespace EspHosted.Spi.Throttle

open Machine
open Driver.PrioQueue (Prio pktPrio)

/-! ## Model -/

def espPrivIf : Nat := 5
def espMaxIf : Nat := 8

/-- `sizeof(struct esp_payload_header)`. -/
def payloadHeaderSize : Nat := 12

/-- `SPI_BUFFER_SIZE`, on both sides. -/
def spiBufferSize : Nat := 1600

/-- `MAX_PAYLOAD_SIZE` of the host. -/
def maxPayloadSize : Nat := spiBufferSize - payloadHeaderSize

/-- The fields of `esp_payload_header` that decide what the host does. -/
structure Header where
  ifType : Nat
  len : Nat
  offset : Nat
  throttleCmd : Nat
  deriving DecidableEq

/-- A buffer of the slave, with the decision that was taken for it, if one was. -/
structure Buffer where
  header : Header
  decision : Option Nat
  deriving DecidableEq

/-- A buffer that the host has processed: whether the checksum in the header was that of the
bytes, and `wifi_tx_throttling` before and after. -/
structure Processed where
  buffer : Buffer
  checksumOk : Bool
  before : Nat
  after : Nat
  deriving DecidableEq

/-- `gives` counts the writers that have queued a packet and are going to give `spi_tx_sem`. -/
structure State where
  throttleHighThreshold : Nat
  throttleLowThreshold : Nat
  currentThrottling : Nat
  queueLoad : Nat
  txSem : Nat
  gives : Nat
  txQueue : Prio → List Buffer
  loaded : List Buffer
  wifiTxThrottling : Nat
  processed : List Processed

def boot : State :=
  { throttleHighThreshold := 0, throttleLowThreshold := 0, currentThrottling := 0, queueLoad := 0,
    txSem := 0, gives := 0, txQueue := fun _ => [], loaded := [], wifiTxThrottling := 0,
    processed := [] }

/-- The fill level in percent: a 16-bit load, the result cut to 8 bits. -/
def loadPercent (spiRxQueueSize queueLoad : Nat) : Nat :=
  queueLoad % 2 ^ 16 * 100 / spiRxQueueSize % 2 ^ 8

/-- `find_wifi_tx_throttling_to_be_set`, with the decision. -/
def findWifiTxThrottlingToBeSet (spiRxQueueSize : Nat) (s : State) : State × Nat :=
  if s.throttleHighThreshold = 0 then (s, 0)
  else
    let load := loadPercent spiRxQueueSize s.queueLoad
    let started := if s.throttleHighThreshold < load then 1 else s.currentThrottling
    let current := if load < s.throttleLowThreshold then 0 else started
    ({ s with currentThrottling := current }, current)

/-- `xQueueSend` by the interface type in the header; the give is still to come. -/
def State.send (s : State) (b : Buffer) : State :=
  let p := pktPrio b.header.ifType
  { s with txQueue := Function.update s.txQueue p (s.txQueue p ++ [b]), gives := s.gives + 1 }

/-- `MAKE_SPI_DMA_ALIGNED`. -/
def dmaAligned (len : Nat) : Nat := (len + 3) / 4 * 4

/-- The buffer of `esp_spi_write`: the header is cleared first, and the decision is stored in the
handle only. -/
def packetBuffer (ifType payloadLen wifiFlowCtrlEn : Nat) : Buffer :=
  { header :=
      { ifType := ifType % 16, len := payloadLen, offset := payloadHeaderSize, throttleCmd := 0 }
    decision := some wifiFlowCtrlEn }

/-- `esp_spi_write` up to its semaphore. -/
def espSpiWrite (spiRxQueueSize : Nat) (s : State) (ifType payloadLen : Nat) : State :=
  if payloadLen = 0 ∨ spiBufferSize < dmaAligned (payloadLen + payloadHeaderSize) then s
  else
    let (s, wifiFlowCtrlEn) := findWifiTxThrottlingToBeSet spiRxQueueSize s
    s.send (packetBuffer ifType payloadLen wifiFlowCtrlEn)

/-- The event of `generate_startup_event`, 29 bytes. -/
def startupBuffer : Buffer :=
  { header := { ifType := espPrivIf, len := 29, offset := payloadHeaderSize, throttleCmd := 0 }
    decision := none }

/-- `generate_startup_event` up to its semaphore. -/
def generateStartupEvent (s : State) : State := s.send startupBuffer

/-- `xSemaphoreGive(spi_tx_sem)`. -/
def give (s : State) : Option State :=
  if s.gives = 0 then none else some { s with gives := s.gives - 1, txSem := s.txSem + 1 }

/-- The dummy buffer of `get_next_tx_buffer`. -/
def dummyBuffer (throttleCmd : Nat) : Buffer :=
  { header := { ifType := espMaxIf, len := 0, offset := 0, throttleCmd }
    decision := some throttleCmd }

/-- No real data pending; `dummyOk` says whether there is memory for the dummy. -/
def composeDummy (spiRxQueueSize : Nat) (s : State) (dummyOk : Bool) : State × Option Buffer :=
  if dummyOk then
    let (s, throttleCmd) := findWifiTxThrottlingToBeSet spiRxQueueSize s
    (s, some (dummyBuffer throttleCmd))
  else (s, none)

/-- `xQueueReceive` from the first queue that has a buffer. -/
def receive (s : State) : List Prio → Option (State × Buffer)
  | [] => none
  | p :: rest =>
    match s.txQueue p with
    | [] => receive s rest
    | b :: bs => some ({ s with txQueue := Function.update s.txQueue p bs }, b)

/-- `get_next_tx_buffer` of the slave. -/
def getNextTxBuffer (spiRxQueueSize : Nat) (s : State) (dummyOk : Bool) :
    State × Option Buffer :=
  if s.txSem = 0 then composeDummy spiRxQueueSize s dummyOk
  else
    let s := { s with txSem := s.txSem - 1 }
    match receive s [.serial, .bt, .others] with
    | some (s, b) => (s, some b)
    | none => composeDummy spiRxQueueSize s dummyOk

/-- `queue_next_transaction`: without a buffer, nothing is queued. -/
def queueNextTransaction (spiRxQueueSize : Nat) (s : State) (dummyOk : Bool) : State :=
  let (s, b) := getNextTxBuffer spiRxQueueSize s dummyOk
  { s with loaded := s.loaded ++ b.toList }

/-- `process_spi_rx_buf`: its result and `wifi_tx_throttling`. -/
def processSpiRxBuf (wifiTxThrottling : Nat) (h : Header) (checksumOk : Bool) : Int × Nat :=
  if h.len = 0 then (-5, h.throttleCmd)
  else if maxPayloadSize < h.len ∨ h.offset ≠ payloadHeaderSize then (-2, wifiTxThrottling)
  else if checksumOk then (0, h.throttleCmd)
  else (-4, wifiTxThrottling)

/-- A transaction: the host receives the oldest buffer that is loaded. -/
def transaction (s : State) (checksumOk : Bool) : Option State :=
  match s.loaded with
  | [] => none
  | b :: rest =>
    let throttling := (processSpiRxBuf s.wifiTxThrottling b.header checksumOk).2
    some { s with loaded := rest, wifiTxThrottling := throttling
                  processed := s.processed ++ [⟨b, checksumOk, s.wifiTxThrottling, throttling⟩] }

inductive Action
  | setThresholds (high low : Nat)
  | setLoad (queueLoad : Nat)
  | write (ifType payloadLen : Nat)
  | startup
  | give
  | queueNext (dummyOk : Bool)
  | transaction (checksumOk : Bool)
  deriving DecidableEq

def step (spiRxQueueSize : Nat) (s : State) : Action → Option State
  | .setThresholds high low =>
    some { s with throttleHighThreshold := high, throttleLowThreshold := low }
  | .setLoad queueLoad => some { s with queueLoad }
  | .write ifType payloadLen => some (espSpiWrite spiRxQueueSize s ifType payloadLen)
  | .startup => some (generateStartupEvent s)
  | .give => give s
  | .queueNext dummyOk => some (queueNextTransaction spiRxQueueSize s dummyOk)
  | .transaction checksumOk => transaction s checksumOk

/-! ## What is kept -/

/-- The host followed the decision for every buffer that it has processed. -/
def Agree (s : State) : Prop :=
  ∀ e ∈ s.processed, ∀ decision, e.buffer.decision = some decision → e.after = decision

/-- The slave throttles: the queue is not below the low mark, and above the high mark now or
before. -/
def Throttles (spiRxQueueSize : Nat) (s : State) : Prop :=
  s.throttleHighThreshold ≠ 0 ∧
    s.throttleLowThreshold ≤ loadPercent spiRxQueueSize s.queueLoad ∧
      (s.throttleHighThreshold < loadPercent spiRxQueueSize s.queueLoad ∨ s.currentThrottling ≠ 0)

instance (spiRxQueueSize : Nat) (s : State) : Decidable (Throttles spiRxQueueSize s) :=
  inferInstanceAs (Decidable (_ ∧ _))

/-- Packets are composed only while the slave does not throttle, and their checksums are right
when they arrive. -/
def Undisturbed (spiRxQueueSize : Nat) (s : State) : Action → Prop
  | .write .. => ¬ Throttles spiRxQueueSize s
  | .transaction checksumOk => ∀ b ∈ s.loaded.head?, b.header.len ≠ 0 → checksumOk = true
  | _ => True

instance (spiRxQueueSize : Nat) (s : State) (a : Action) :
    Decidable (Undisturbed spiRxQueueSize s a) := by
  cases a using Action.casesOn <;> unfold Undisturbed <;> infer_instance

/-- A dummy has its decision in the header; a packet has none there, and the host accepts it. -/
def Buffer.WellFormed (b : Buffer) : Prop :=
  (b.header.len = 0 ∧ b.decision = some b.header.throttleCmd) ∨
    (b.header.len ≠ 0 ∧ b.header.len ≤ maxPayloadSize ∧ b.header.offset = payloadHeaderSize ∧
      b.header.throttleCmd = 0)

/-- No decision to throttle was taken for a packet. -/
def Buffer.Quiet (b : Buffer) : Prop :=
  b.header.len ≠ 0 → ∀ decision, b.decision = some decision → decision = 0

/-- What holds of every buffer of the slave, and what of every buffer that the host has
processed. -/
structure Buffers (P : Buffer → Prop) (s : State) : Prop where
  queued : ∀ p, ∀ b ∈ s.txQueue p, P b
  loaded : ∀ b ∈ s.loaded, P b
  processed : ∀ e ∈ s.processed, P e.buffer

/-- After every buffer the flag of the host is what its header says, unless the buffer is a packet
with a wrong checksum. -/
def Applied (s : State) : Prop :=
  ∀ e ∈ s.processed, e.after =
    if e.buffer.header.len = 0 ∨ e.checksumOk = true then e.buffer.header.throttleCmd
    else e.before

section Steps

variable {n : Nat} {s s' : State} {P : Buffer → Prop}

theorem find_quiet (hQuiet : ¬ Throttles n s) : (findWifiTxThrottlingToBeSet n s).2 = 0 := by
  unfold findWifiTxThrottlingToBeSet
  split
  · rfl
  · rename_i hHigh
    show (if _ then 0 else _) = 0
    split
    · rfl
    · rename_i hLow
      split
      · rename_i hLoad
        exact absurd ⟨hHigh, Nat.le_of_not_lt hLow, Or.inl hLoad⟩ hQuiet
      · by_contra hCurrent
        exact hQuiet ⟨hHigh, Nat.le_of_not_lt hLow, Or.inr hCurrent⟩

theorem Buffers.find (h : Buffers P s) : Buffers P (findWifiTxThrottlingToBeSet n s).1 := by
  unfold findWifiTxThrottlingToBeSet
  split
  · exact h
  · exact ⟨h.queued, h.loaded, h.processed⟩

theorem Buffers.send (h : Buffers P s) {b : Buffer} (hb : P b) : Buffers P (s.send b) := by
  refine ⟨fun p c hMem => ?_, h.loaded, h.processed⟩
  simp only [State.send, Function.update_apply] at hMem
  split at hMem
  · rcases List.mem_append.mp hMem with hOld | hNew
    · exact h.queued _ c hOld
    · exact List.mem_singleton.mp hNew ▸ hb
  · exact h.queued p c hMem

theorem Buffers.receive (h : Buffers P s) {ps : List Prio} {b : Buffer}
    (hReceive : receive s ps = some (s', b)) : Buffers P s' ∧ P b := by
  induction ps with
  | nil => cases hReceive
  | cons p rest ih =>
    unfold Throttle.receive at hReceive
    split at hReceive
    · exact ih hReceive
    · rename_i c cs hQueue
      cases hReceive
      have hAll : ∀ d ∈ b :: cs, P d := hQueue ▸ h.queued p
      refine ⟨⟨fun q d hMem => ?_, h.loaded, h.processed⟩, hAll b List.mem_cons_self⟩
      simp only [Function.update_apply] at hMem
      split at hMem
      · exact hAll d (List.mem_cons_of_mem b hMem)
      · exact h.queued q d hMem

theorem Buffers.composeDummy (h : Buffers P s) (hDummy : ∀ cmd, P (dummyBuffer cmd))
    (dummyOk : Bool) :
    Buffers P (composeDummy n s dummyOk).1 ∧ ∀ b ∈ (composeDummy n s dummyOk).2, P b := by
  unfold Throttle.composeDummy
  split
  · refine ⟨h.find, fun b hMem => ?_⟩
    cases hMem
    exact hDummy _
  · exact ⟨h, nofun⟩

theorem Buffers.getNextTxBuffer (h : Buffers P s) (hDummy : ∀ cmd, P (dummyBuffer cmd))
    (dummyOk : Bool) :
    Buffers P (getNextTxBuffer n s dummyOk).1 ∧ ∀ b ∈ (getNextTxBuffer n s dummyOk).2, P b := by
  unfold Throttle.getNextTxBuffer
  split
  · exact h.composeDummy hDummy dummyOk
  · have hTaken : Buffers P { s with txSem := s.txSem - 1 } := ⟨h.queued, h.loaded, h.processed⟩
    dsimp only
    split
    · rename_i hReceive
      obtain ⟨hNext, hBuffer⟩ := hTaken.receive hReceive
      refine ⟨hNext, fun c hMem => ?_⟩
      cases hMem
      exact hBuffer
    · exact hTaken.composeDummy hDummy dummyOk

/-- What holds of whatever is composed holds of every buffer. -/
theorem Buffers.step (h : Buffers P s) {a : Action} (hDummy : ∀ cmd, P (dummyBuffer cmd))
    (hStartup : P startupBuffer)
    (hPacket : ∀ ifType payloadLen, a = .write ifType payloadLen → payloadLen ≠ 0 →
      payloadLen ≤ maxPayloadSize →
      P (packetBuffer ifType payloadLen (findWifiTxThrottlingToBeSet n s).2))
    (hStep : step n s a = some s') : Buffers P s' := by
  cases a with
  | setThresholds high low =>
    cases hStep
    exact ⟨h.queued, h.loaded, h.processed⟩
  | setLoad queueLoad =>
    cases hStep
    exact ⟨h.queued, h.loaded, h.processed⟩
  | write ifType payloadLen =>
    cases hStep
    unfold espSpiWrite
    split
    · exact h
    · rename_i hLen
      obtain ⟨hNe, hFits⟩ := not_or.mp hLen
      refine h.find.send (hPacket ifType payloadLen rfl hNe ?_)
      simp only [spiBufferSize, payloadHeaderSize, maxPayloadSize, dmaAligned] at hFits ⊢
      omega
  | startup =>
    cases hStep
    exact h.send hStartup
  | give =>
    simp only [Throttle.step, give, Option.ite_none_left_eq_some] at hStep
    cases hStep.2
    exact ⟨h.queued, h.loaded, h.processed⟩
  | queueNext dummyOk =>
    cases hStep
    obtain ⟨hNext, hBuffer⟩ := h.getNextTxBuffer (n := n) hDummy dummyOk
    refine ⟨hNext.queued, fun b hMem => ?_, hNext.processed⟩
    rcases List.mem_append.mp hMem with hOld | hNew
    · exact hNext.loaded b hOld
    · exact hBuffer b (Option.mem_toList.mp hNew)
  | transaction checksumOk =>
    simp only [Throttle.step, transaction] at hStep
    split at hStep
    · cases hStep
    · rename_i b rest hLoaded
      cases hStep
      have hAll : ∀ c ∈ b :: rest, P c := hLoaded ▸ h.loaded
      refine ⟨h.queued, fun c hMem => hAll c (List.mem_cons_of_mem b hMem), fun e hMem => ?_⟩
      rcases List.mem_append.mp hMem with hOld | hNew
      · exact h.processed e hOld
      · rw [List.mem_singleton.mp hNew]
        exact hAll b List.mem_cons_self

theorem buffers_boot : Buffers P boot := ⟨nofun, nofun, nofun⟩

/-- Every buffer is well-formed, in every run. -/
theorem wellFormed_of_run (hRun : Reaches (step n) anyStep boot s) :
    Buffers Buffer.WellFormed s := by
  refine hRun.invariant buffers_boot fun u a v h _ hStep => ?_
  refine h.step (fun cmd => Or.inl ⟨rfl, rfl⟩) (Or.inr ?_) (fun ifType len _ hNe hLe => ?_) hStep
  · exact ⟨nofun, by decide, rfl, rfl⟩
  · exact Or.inr ⟨hNe, hLe, rfl, rfl⟩

/-- The host takes over the header of a well-formed buffer, unless the checksum of a packet is
wrong. -/
theorem processSpiRxBuf_wellFormed {b : Buffer} (hb : b.WellFormed) (throttling : Nat)
    (checksumOk : Bool) :
    (processSpiRxBuf throttling b.header checksumOk).2 =
      if b.header.len = 0 ∨ checksumOk = true then b.header.throttleCmd else throttling := by
  unfold processSpiRxBuf
  rcases hb with ⟨hLen, -⟩ | ⟨hLen, hLe, hOffset, -⟩
  · rw [if_pos hLen, if_pos (Or.inl hLen)]
  · have hAccepted : ¬ (maxPayloadSize < b.header.len ∨ b.header.offset ≠ payloadHeaderSize) :=
      not_or.mpr ⟨Nat.not_lt_of_le hLe, fun hNe => hNe hOffset⟩
    rw [if_neg hLen, if_neg hAccepted]
    cases checksumOk <;> simp [hLen]

theorem processed_find : (findWifiTxThrottlingToBeSet n s).1.processed = s.processed := by
  unfold findWifiTxThrottlingToBeSet
  split <;> rfl

theorem processed_receive {ps : List Prio} {b : Buffer}
    (hReceive : receive s ps = some (s', b)) : s'.processed = s.processed := by
  induction ps with
  | nil => cases hReceive
  | cons p rest ih =>
    unfold receive at hReceive
    split at hReceive
    · exact ih hReceive
    · cases hReceive
      rfl

theorem processed_composeDummy {dummyOk : Bool} :
    (composeDummy n s dummyOk).1.processed = s.processed := by
  unfold composeDummy
  split
  · exact processed_find
  · rfl

theorem processed_getNextTxBuffer {dummyOk : Bool} :
    (getNextTxBuffer n s dummyOk).1.processed = s.processed := by
  unfold getNextTxBuffer
  split
  · exact processed_composeDummy
  · dsimp only
    split
    · exact processed_receive (s := { s with txSem := s.txSem - 1 }) ‹_›
    · exact processed_composeDummy (s := { s with txSem := s.txSem - 1 })

/-- Only a transaction adds to what the host has processed. -/
theorem processed_step {a : Action} (hStep : step n s a = some s') :
    s'.processed = s.processed ∨ ∃ b rest checksumOk, a = .transaction checksumOk ∧
      s.loaded = b :: rest ∧
        s'.processed = s.processed ++ [⟨b, checksumOk, s.wifiTxThrottling,
          (processSpiRxBuf s.wifiTxThrottling b.header checksumOk).2⟩] := by
  cases a with
  | setThresholds high low =>
    cases hStep
    exact Or.inl rfl
  | setLoad queueLoad =>
    cases hStep
    exact Or.inl rfl
  | write ifType payloadLen =>
    cases hStep
    refine Or.inl ?_
    unfold espSpiWrite
    split
    · rfl
    · exact processed_find
  | startup =>
    cases hStep
    exact Or.inl rfl
  | give =>
    simp only [step, give, Option.ite_none_left_eq_some] at hStep
    cases hStep.2
    exact Or.inl rfl
  | queueNext dummyOk =>
    cases hStep
    exact Or.inl processed_getNextTxBuffer
  | transaction checksumOk =>
    simp only [step, transaction] at hStep
    split at hStep
    · cases hStep
    · rename_i b rest hLoaded
      cases hStep
      exact Or.inr ⟨b, rest, checksumOk, rfl, hLoaded, rfl⟩

/-- In every run, the flag of the host after a buffer is what the header says, or unchanged. -/
theorem applied_of_run (hRun : Reaches (step n) anyStep boot s) : Applied s := by
  induction hRun with
  | start => nofun
  | next hPrev _ hStep ih =>
    intro e hMem
    rcases processed_step hStep with hSame | ⟨b, rest, checksumOk, -, hLoaded, hNew⟩
    · exact ih e (hSame ▸ hMem)
    · rw [hNew] at hMem
      rcases List.mem_append.mp hMem with hOld | hLast
      · exact ih e hOld
      · rw [List.mem_singleton.mp hLast]
        have hb := (wellFormed_of_run hPrev).loaded b (hLoaded ▸ List.mem_cons_self)
        exact processSpiRxBuf_wellFormed hb _ checksumOk

/-- In every run, the host follows the decision for a dummy; for a packet it does so exactly if
the checksum is right and the decision was not to throttle, or the checksum is wrong and the flag
was the same before. -/
theorem processed_agree_iff (hRun : Reaches (step n) anyStep boot s) {e : Processed}
    (hMem : e ∈ s.processed) {decision : Nat} (hDecision : e.buffer.decision = some decision) :
    e.after = decision ↔ e.buffer.header.len = 0 ∨
      if e.checksumOk = true then decision = 0 else e.before = decision := by
  rw [applied_of_run hRun e hMem]
  rcases (wellFormed_of_run hRun).processed e hMem with ⟨hLen, hSome⟩ | ⟨hLen, -, -, hCmd⟩
  · have hEq : e.buffer.header.throttleCmd = decision :=
      Option.some.inj (hSome.symm.trans hDecision)
    simp [hLen, hEq]
  · simp only [hCmd, hLen, false_or]
    split
    · exact eq_comm
    · exact Iff.rfl

/-- As long as packets are composed only while the slave does not throttle, no decision to
throttle is taken for a packet. -/
theorem quiet_of_run (hRun : Reaches (step n) (Undisturbed n) boot s) :
    Buffers Buffer.Quiet s := by
  refine hRun.invariant buffers_boot fun u a v h hQuiet hStep => ?_
  refine h.step (fun cmd hLen => absurd rfl hLen) nofun (fun ifType len hWrite _ _ => ?_) hStep
  subst hWrite
  intro _ decision hDecision
  rw [← Option.some.inj hDecision]
  exact find_quiet hQuiet

/-- The packets that the host has processed came with their checksums. -/
theorem checksums_of_run (hRun : Reaches (step n) (Undisturbed n) boot s) :
    ∀ e ∈ s.processed, e.buffer.header.len ≠ 0 → e.checksumOk = true := by
  refine hRun.invariant (I := fun s => ∀ e ∈ s.processed, e.buffer.header.len ≠ 0 →
    e.checksumOk = true) nofun fun u a v h hGuard hStep e hMem => ?_
  rcases processed_step hStep with hSame | ⟨b, rest, checksumOk, rfl, hLoaded, hNew⟩
  · exact h e (hSame ▸ hMem)
  · rw [hNew] at hMem
    rcases List.mem_append.mp hMem with hOld | hLast
    · exact h e hOld
    · rw [List.mem_singleton.mp hLast]
      exact hGuard b (by rw [hLoaded]; rfl)

/-- As long as packets are composed only while the slave does not throttle, and arrive with their
checksums, the host follows every decision. -/
theorem throttle_agree (hRun : Reaches (step n) (Undisturbed n) boot s) : Agree s := by
  intro e hMem decision hDecision
  refine (processed_agree_iff hRun.unguarded hMem hDecision).mpr ?_
  by_cases hLen : e.buffer.header.len = 0
  · exact Or.inl hLen
  · refine Or.inr ?_
    rw [if_pos (checksums_of_run hRun e hMem hLen)]
    exact (quiet_of_run hRun).processed e hMem hLen decision hDecision

end Steps

/-- With a receive queue of 10 and thresholds of 80 and 60 percent, the queue fills up, and a
dummy stops the host. -/
def stopHost : List Action :=
  [.setThresholds 80 60, .setLoad 9, .queueNext true, .transaction true]

/-- The queue drains, and a packet and a dummy resume the host. -/
theorem throttle_agree_resume :
    ∃ s, Reaches (step 10) (Undisturbed 10) boot s ∧
      s.processed.map Processed.after = [1, 0, 0] ∧ Agree s := by
  obtain ⟨s, hs, hProcessed⟩ := Option.map_eq_some_iff.mp
    (show (runGuarded (step 10) (Undisturbed 10) boot (stopHost ++ ([.setLoad 2, .write 1 100,
      .give, .queueNext false, .queueNext true, .transaction true,
      .transaction false] : List Action))).map (fun s => s.processed.map Processed.after) =
        some [1, 0, 0] by decide +kernel)
  exact ⟨s, .of_run hs, hProcessed, throttle_agree (.of_run hs)⟩

/-- A packet that is composed while the queue is still full lets the host go on. -/
theorem not_throttle_agree :
    ¬ ∀ spiRxQueueSize s, Reaches (step spiRxQueueSize) anyStep boot s → Agree s := by
  intro h
  obtain ⟨s, hs, hLast⟩ := Option.map_eq_some_iff.mp
    (show (run (step 10) boot (stopHost ++ ([.write 1 100, .give, .queueNext true,
      .transaction true] : List Action))).map (fun s => s.processed.getLast?) =
        some (some ⟨packetBuffer 1 100 1, true, 1, 0⟩) by decide +kernel)
  have hAgree := h 10 s (.of_plain_run hs) _ (List.mem_of_getLast? hLast) 1 rfl
  cases hAgree

end EspHosted.Spi.Throttle
