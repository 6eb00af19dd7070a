import EspHosted.Lib.Machine

/-!
# Transmit credit of the SPI half-duplex bus

The slave counts the receive buffers that it has loaded in `rx_ready_buf_num` and writes the
counter to the register `SPI_HD_REG_RX_BUF_LEN`. The host counts the buffers that its packets
have taken in `spi_hd_tx_buf_count`; the difference, modulo 2^32, is what it may write. A
function-static `buf_available` keeps what is left of the last difference, and the register is
read again only when that is not enough.

A slave reset sets the counter and the register of the slave to 0; nothing resets the two
counters of the host.

Beside the driver runs a history, which sees the events only: which packets were written, and
what the register said.

* `creditInv_step`: the counts of the host follow the history, whatever happens;
* `credit_safe`: so a packet is written only into buffers that are free, as long as free buffers
  cover what the packets written so far are ahead of the slave when the register is read, and a
  reset comes after the packets written since have used up what the register had left.
-/

namespace EspHosted.SpiHd.Credit

open Machine

/-! ## Model -/

/-- `MAX_SPI_HD_BUFFER_SIZE`. -/
def maxSpiHdBufferSize : Nat := 1600

/-- `sizeof(struct esp_payload_header)`. -/
def payloadHeaderSize : Nat := 12

/-- `MAX_WRITE_BUF_RETRIES`. -/
def maxWriteBufRetries : Nat := 25

/-- `SPI_HD_QUEUE_SIZE`, the number of receive transactions of the slave. -/
structure Config where
  spiHdQueueSize : Nat
  size_lt : spiHdQueueSize < 2 ^ 32

/-- What `spi_hd_write_packet` reads of a packet; `flag` and `hci` say whether the flags are not
0 and whether the interface is `ESP_HCI_IF`. -/
structure Packet where
  payloadLen : Nat
  flag : Bool
  hci : Bool
  payloadZcopy : Bool
  deriving DecidableEq

/-- The first byte of an HCI packet moves to the header. -/
def sentLen (pkt : Packet) : Nat :=
  if pkt.hci && !pkt.payloadZcopy then (pkt.payloadLen + 2 ^ 16 - 1) % 2 ^ 16 else pkt.payloadLen

/-- `buf_needed` of a packet that is not dropped. -/
def bufNeeded (pkt : Packet) (allocOk : Bool) : Option Nat :=
  if !pkt.flag && pkt.payloadLen == 0 then none
  else if !pkt.payloadZcopy && !allocOk then none
  else if maxSpiHdBufferSize - payloadHeaderSize < pkt.payloadLen then none
  else some ((sentLen pkt + payloadHeaderSize + maxSpiHdBufferSize - 1) / maxSpiHdBufferSize)

/-- Where `spi_hd_write_task` is: deleted, between two packets, in the loop of
`spi_hd_is_write_buffer_available`, before `h_spi_hd_write_dma`. -/
inductive WritePc
  | deleted
  | idle
  | checking (bufNeeded retry : Nat)
  | writing (bufNeeded : Nat)
  deriving DecidableEq

/-- A DMA write, with the counters at its start. -/
structure Write where
  bufNeeded : Nat
  rxReadyBufNum : Nat
  consumed : Nat
  deriving DecidableEq

/-- `packet` are the buffers of the packet that was sent last, `sent` those of all packets whose
DMA write succeeded; `credit` is what the register had left over these when it was read last, less
the packets that came to an end since. -/
structure History where
  packet : Nat
  sent : Nat
  credit : Nat
  deriving DecidableEq

/-- `rxBufLen` is the register, `loaded` are the buffers of the slave that are free. `consumed`
counts the buffers that were taken since the last slave reset, and `written` lists the DMA
writes. -/
structure State where
  rxReadyBufNum : Nat
  rxBufLen : Nat
  loaded : Nat
  consumed : Nat
  txBufCount : Nat
  bufAvailable : Nat
  pc : WritePc
  written : List Write
  history : History

def boot : State :=
  { rxReadyBufNum := 0, rxBufLen := 0, loaded := 0, consumed := 0, txBufCount := 0,
    bufAvailable := 0, pc := .idle, written := [], history := ⟨0, 0, 0⟩ }

/-- The slave loads a buffer: `cb_rx_ready`. -/
def cbRxReady (cfg : Config) (s : State) : Option State :=
  if s.loaded < cfg.spiHdQueueSize then
    let num := (s.rxReadyBufNum + 1) % 2 ^ 32
    some { s with rxReadyBufNum := num, rxBufLen := num, loaded := s.loaded + 1 }
  else none

/-- `len - spi_hd_tx_buf_count`, of 32-bit values. -/
def txBufferNum (len txBufCount : Nat) : Nat := (len + 2 ^ 32 - txBufCount) % 2 ^ 32

/-- `buf_available` is enough, and is charged. -/
def charge (s : State) (need bufAvailable : Nat) : State :=
  { s with bufAvailable := bufAvailable - need, pc := .writing need }

/-- `spi_hd_write_packet` up to the first comparison with `buf_available`. -/
def writePacket (s : State) (pkt : Packet) (allocOk : Bool) : Option State :=
  if s.pc = .idle then
    match bufNeeded pkt allocOk with
    | none => some s
    | some need =>
      if s.bufAvailable < need then some { s with pc := .checking need maxWriteBufRetries }
      else some (charge s need s.bufAvailable)
  else none

/-- `spi_hd_get_tx_buffer_num`, which leaves `buf_available` as it is when the register cannot
be read, and one turn of the loop. -/
def getTxBufferNum (s : State) (ok : Bool) : Option State :=
  match s.pc with
  | .checking need retry =>
    let bufAvailable := if ok then txBufferNum s.rxBufLen s.txBufCount else s.bufAvailable
    if bufAvailable < need then
      some { s with bufAvailable
                    pc := if retry ≤ 1 then .idle else .checking need (retry - 1) }
    else some (charge s need bufAvailable)
  | _ => none

/-- `h_spi_hd_write_dma`. If it fails, `took` says whether the slave has got the data all the
same. -/
def writeDma (s : State) (ok took : Bool) : Option State :=
  match s.pc with
  | .writing need =>
    let taken := if ok || took then need else 0
    some { s with
      loaded := s.loaded - taken
      consumed := s.consumed + taken
      txBufCount := if ok then (s.txBufCount + need) % 2 ^ 32 else s.txBufCount
      pc := .idle
      written := s.written ++ [⟨need, s.rxReadyBufNum, s.consumed⟩] }
  | _ => none

/-- `bus_deinit_internal` deletes the task. -/
def busDeinitInternal (s : State) : State := { s with pc := .deleted }

def busInitInternal (s : State) : Option State :=
  if s.pc = .deleted then some { s with pc := .idle } else none

def slaveReset (s : State) : State :=
  { s with rxReadyBufNum := 0, rxBufLen := 0, loaded := 0, consumed := 0 }

inductive Action
  | cbRxReady
  | writePacket (pkt : Packet) (allocOk : Bool)
  | getTxBufferNum (ok : Bool)
  | writeDma (ok took : Bool)
  | busDeinit
  | busInit
  | slaveReset
  deriving DecidableEq

/-- What the driver and the slave do. -/
def act (cfg : Config) (s : State) : Action → Option State
  | .cbRxReady => cbRxReady cfg s
  | .writePacket pkt allocOk => writePacket s pkt allocOk
  | .getTxBufferNum ok => getTxBufferNum s ok
  | .writeDma ok took => writeDma s ok took
  | .busDeinit => some (busDeinitInternal s)
  | .busInit => busInitInternal s
  | .slaveReset => some (slaveReset s)

def History.next (h : History) (rxBufLen : Nat) : Action → History
  | .writePacket pkt allocOk =>
    match bufNeeded pkt allocOk with
    | none => h
    | some need => { h with packet := need }
  | .getTxBufferNum true => { h with credit := txBufferNum rxBufLen (h.sent % 2 ^ 32) }
  | .writeDma ok _ =>
    { h with sent := if ok then h.sent + h.packet else h.sent, credit := h.credit - h.packet }
  | _ => h

def step (cfg : Config) (s : State) (a : Action) : Option State :=
  (act cfg s a).map fun t => { t with history := s.history.next s.rxBufLen a }

/-! ## What is kept -/

/-- `rx_ready_buf_num` minus the buffers taken since the last slave reset, modulo 2^32. -/
def freeBufs (rxReadyBufNum consumed : Nat) : Nat :=
  (rxReadyBufNum + (2 ^ 32 - consumed % 2 ^ 32)) % 2 ^ 32

/-- No packet was written without enough free buffers, and the credit that is kept does not
exceed the buffers that are free. -/
structure CreditSafe (s : State) : Prop where
  written : ∀ w ∈ s.written, w.bufNeeded ≤ freeBufs w.rxReadyBufNum w.consumed
  available : s.bufAvailable ≤ freeBufs s.rxReadyBufNum s.consumed
  free : freeBufs s.rxReadyBufNum s.consumed = s.loaded

/-- How far the packets whose DMA write succeeded are ahead of the buffers that were taken since
the last slave reset. -/
def uncovered (s : State) : Nat := freeBufs s.history.sent s.consumed

/-- What the task may write without a further check. -/
def WritePc.granted : WritePc → Nat
  | .writing need => need
  | _ => 0

/-- The register is read only while free buffers cover what the packets written so far are ahead
of the slave, and the slave is reset only after the packets since the last reading have used up
what it had left. -/
def Covered (s : State) : Action → Prop
  | .getTxBufferNum ok => ok = true → uncovered s ≤ s.loaded
  | .slaveReset => s.history.credit = 0
  | _ => True

instance (s : State) (a : Action) : Decidable (Covered s a) := by
  cases a using Action.casesOn <;> unfold Covered <;> infer_instance

/-- The packet that is asked for or written is the one sent last. -/
def WritePc.Tracks (pc : WritePc) (packet : Nat) : Prop :=
  match pc with
  | .checking need _ => packet = need
  | .writing need => packet = need
  | _ => True

/-- `spi_hd_tx_buf_count` counts what the history says was sent, and the credit, charged or not, is
covered by free buffers and by the credit of the history. -/
structure CreditInv (cfg : Config) (s : State) : Prop where
  register : s.rxBufLen = s.rxReadyBufNum
  ready_lt : s.rxReadyBufNum < 2 ^ 32
  count : s.txBufCount = s.history.sent % 2 ^ 32
  tracked : s.pc.Tracks s.history.packet
  free : freeBufs s.rxReadyBufNum s.consumed = s.loaded
  loaded_le : s.loaded ≤ cfg.spiHdQueueSize
  credit : s.bufAvailable + s.pc.granted ≤ s.history.credit
  covered : s.bufAvailable + s.pc.granted ≤ s.loaded

theorem freeBufs_zero : freeBufs 0 0 = 0 := by
  decide

/-- The slave loads one more buffer. -/
theorem freeBufs_succ {ready consumed loaded : Nat} (hFree : freeBufs ready consumed = loaded)
    (hLt : loaded + 1 < 2 ^ 32) : freeBufs ((ready + 1) % 2 ^ 32) consumed = loaded + 1 := by
  unfold freeBufs at hFree ⊢
  omega

/-- Buffers are taken that are free. -/
theorem freeBufs_take {ready consumed loaded taken : Nat}
    (hFree : freeBufs ready consumed = loaded) (hLe : taken ≤ loaded) :
    freeBufs ready (consumed + taken) = loaded - taken := by
  unfold freeBufs at hFree ⊢
  omega

/-- What the host computes is covered by free buffers if what it has counted too much is. -/
theorem txBufferNum_le {ready consumed sent loaded : Nat} (hReady : ready < 2 ^ 32)
    (hFree : freeBufs ready consumed = loaded) (hAhead : freeBufs sent consumed ≤ loaded) :
    txBufferNum ready (sent % 2 ^ 32) ≤ loaded := by
  unfold txBufferNum
  unfold freeBufs at hFree hAhead
  omega

section Steps

variable {cfg : Config} {s t : State}

theorem inv_cbRxReady (h : CreditInv cfg s) (hAct : cbRxReady cfg s = some t) :
    CreditInv cfg { t with history := s.history } := by
  unfold cbRxReady at hAct
  split at hAct
  · rename_i hRoom
    have hLt := cfg.size_lt
    have hSucc := freeBufs_succ h.free (by omega)
    have hNum : (s.rxReadyBufNum + 1) % 2 ^ 32 < 2 ^ 32 := Nat.mod_lt _ (by decide)
    have hCovered := Nat.le_trans h.covered (Nat.le_succ s.loaded)
    dsimp only at hAct
    generalize (s.rxReadyBufNum + 1) % 2 ^ 32 = num at hAct hSucc hNum
    cases hAct
    exact ⟨rfl, hNum, h.count, h.tracked, hSucc, hRoom, h.credit, hCovered⟩
  · cases hAct

theorem inv_writePacket {pkt : Packet} {allocOk : Bool} (h : CreditInv cfg s)
    (hAct : writePacket s pkt allocOk = some t) :
    CreditInv cfg
      { t with history := s.history.next s.rxBufLen (.writePacket pkt allocOk) } := by
  unfold writePacket at hAct
  split at hAct
  · rename_i hPc
    have hGranted : s.pc.granted = 0 := by rw [hPc]; rfl
    have hCredit := h.credit
    have hCovered := h.covered
    rw [hGranted] at hCredit hCovered
    simp only [History.next]
    split at hAct
    · cases hAct
      exact h
    · rename_i need hNeed
      split at hAct
      · cases hAct
        exact ⟨h.register, h.ready_lt, h.count, rfl, h.free, h.loaded_le, hCredit, hCovered⟩
      · rename_i hEnough
        cases hAct
        refine ⟨h.register, h.ready_lt, h.count, rfl, h.free, h.loaded_le, ?_, ?_⟩
        · show s.bufAvailable - need + need ≤ s.history.credit
          omega
        · show s.bufAvailable - need + need ≤ s.loaded
          omega
  · cases hAct

/-- Reading the register changes the credit only. -/
theorem History.next_read (h : History) (rxBufLen : Nat) (ok : Bool) :
    ∃ credit, h.next rxBufLen (.getTxBufferNum ok) = { h with credit } := by
  cases ok with
  | true => exact ⟨_, rfl⟩
  | false => exact ⟨h.credit, rfl⟩

/-- The register is read: what the host keeps is what it computes. -/
theorem inv_getTxBufferNum {ok : Bool} (h : CreditInv cfg s)
    (hCovered : Covered s (.getTxBufferNum ok)) (hAct : getTxBufferNum s ok = some t) :
    CreditInv cfg { t with history := s.history.next s.rxBufLen (.getTxBufferNum ok) } := by
  unfold getTxBufferNum at hAct
  split at hAct
  · rename_i need retry hPc
    have hTracked := h.tracked
    rw [hPc] at hTracked
    have hRead : (if ok then txBufferNum s.rxBufLen s.txBufCount else s.bufAvailable) ≤ s.loaded ∧
        (if ok then txBufferNum s.rxBufLen s.txBufCount else s.bufAvailable) ≤
          (s.history.next s.rxBufLen (.getTxBufferNum ok)).credit := by
      cases ok with
      | true =>
        rw [if_pos rfl, h.register, h.count]
        exact ⟨txBufferNum_le h.ready_lt h.free (hCovered rfl), Nat.le_refl _⟩
      | false =>
        rw [if_neg Bool.false_ne_true]
        exact ⟨Nat.le_of_add_right_le h.covered, Nat.le_of_add_right_le h.credit⟩
    obtain ⟨credit, hNext⟩ := s.history.next_read s.rxBufLen ok
    rw [hNext] at hRead ⊢
    obtain ⟨hLoaded, hLeft⟩ := hRead
    dsimp only at hAct hLeft
    generalize (if ok then txBufferNum s.rxBufLen s.txBufCount else s.bufAvailable) = avail
      at hAct hLoaded hLeft
    split at hAct
    · cases hAct
      refine ⟨h.register, h.ready_lt, h.count, ?_, h.free, h.loaded_le, ?_, ?_⟩
      · show WritePc.Tracks (if retry ≤ 1 then .idle else .checking need (retry - 1)) _
        split
        · trivial
        · exact hTracked
      · show avail + WritePc.granted (if retry ≤ 1 then .idle else .checking need (retry - 1)) ≤ _
        split <;> exact hLeft
      · show avail + WritePc.granted (if retry ≤ 1 then .idle else .checking need (retry - 1)) ≤ _
        split <;> exact hLoaded
    · rename_i hEnough
      cases hAct
      refine ⟨h.register, h.ready_lt, h.count, hTracked, h.free, h.loaded_le, ?_, ?_⟩
      · show avail - need + need ≤ credit
        omega
      · show avail - need + need ≤ s.loaded
        omega
  · cases hAct

theorem inv_writeDma {ok took : Bool} (h : CreditInv cfg s)
    (hAct : writeDma s ok took = some t) :
    CreditInv cfg { t with history := s.history.next s.rxBufLen (.writeDma ok took) } := by
  unfold writeDma at hAct
  split at hAct
  · rename_i need hPc
    have hPacket := h.tracked
    have hCredit := h.credit
    have hCovered := h.covered
    rw [hPc] at hPacket hCredit hCovered
    replace hPacket : s.history.packet = need := hPacket
    replace hCredit : s.bufAvailable + need ≤ s.history.credit := hCredit
    replace hCovered : s.bufAvailable + need ≤ s.loaded := hCovered
    have hTaken : (if ok || took then need else 0) ≤ need := by
      split
      · exact Nat.le_refl _
      · exact Nat.zero_le _
    dsimp only at hAct
    generalize (if ok || took then need else 0) = taken at hAct hTaken
    cases hAct
    refine ⟨h.register, h.ready_lt, ?_, trivial, freeBufs_take h.free (by omega), ?_, ?_, ?_⟩
    · show (if ok then (s.txBufCount + need) % 2 ^ 32 else s.txBufCount) =
        (if ok then s.history.sent + s.history.packet else s.history.sent) % 2 ^ 32
      rw [h.count, hPacket]
      split
      · exact Nat.mod_add_mod ..
      · rfl
    · exact Nat.le_trans (Nat.sub_le _ _) h.loaded_le
    · show s.bufAvailable + 0 ≤ s.history.credit - s.history.packet
      omega
    · show s.bufAvailable + 0 ≤ s.loaded - taken
      omega
  · cases hAct

/-- The counts of the host follow the history, and the credit stays covered along the steps that
satisfy the condition. -/
theorem creditInv_step {s' : State} {a : Action} (h : CreditInv cfg s) (hCovered : Covered s a)
    (hStep : step cfg s a = some s') : CreditInv cfg s' := by
  obtain ⟨t, hAct, rfl⟩ := Option.map_eq_some_iff.mp hStep
  cases a with
  | cbRxReady => exact inv_cbRxReady h hAct
  | writePacket pkt allocOk => exact inv_writePacket h hAct
  | getTxBufferNum ok => exact inv_getTxBufferNum h hCovered hAct
  | writeDma ok took => exact inv_writeDma h hAct
  | busDeinit =>
    cases hAct
    exact ⟨h.register, h.ready_lt, h.count, trivial, h.free, h.loaded_le,
      Nat.le_of_add_right_le h.credit, Nat.le_of_add_right_le h.covered⟩
  | busInit =>
    simp only [act, busInitInternal, Option.ite_none_right_eq_some] at hAct
    obtain ⟨-, hEq⟩ := hAct
    cases hEq
    exact ⟨h.register, h.ready_lt, h.count, trivial, h.free, h.loaded_le,
      Nat.le_of_add_right_le h.credit, Nat.le_of_add_right_le h.covered⟩
  | slaveReset =>
    cases hAct
    have hZero : s.bufAvailable + s.pc.granted ≤ 0 := hCovered ▸ h.credit
    exact ⟨rfl, Nat.two_pow_pos 32, h.count, h.tracked, freeBufs_zero, Nat.zero_le _, h.credit,
      hZero⟩

/-! ## What is written -/

/-- Every write found enough free buffers. -/
def WrittenSafe (s : State) : Prop :=
  ∀ w ∈ s.written, w.bufNeeded ≤ freeBufs w.rxReadyBufNum w.consumed

/-- A write takes what was granted; nothing else writes. -/
theorem WrittenSafe.step {s' : State} {a : Action} (hWritten : WrittenSafe s)
    (h : CreditInv cfg s) (hStep : step cfg s a = some s') : WrittenSafe s' := by
  obtain ⟨t, hAct, rfl⟩ := Option.map_eq_some_iff.mp hStep
  cases a with
  | writeDma ok took =>
    simp only [act, writeDma] at hAct
    split at hAct
    · rename_i need hPc
      have hCovered : s.bufAvailable + need ≤ s.loaded := by
        have hGranted := h.covered
        rwa [hPc] at hGranted
      cases hAct
      intro w hMem
      rcases List.mem_append.mp hMem with hOld | hNew
      · exact hWritten w hOld
      · cases List.mem_singleton.mp hNew
        show need ≤ freeBufs s.rxReadyBufNum s.consumed
        rw [h.free]
        omega
    · cases hAct
  | cbRxReady =>
    simp only [act, cbRxReady] at hAct
    split at hAct <;> cases hAct
    exact hWritten
  | writePacket pkt allocOk =>
    simp only [act, writePacket] at hAct
    (repeat' split at hAct) <;> cases hAct <;> exact hWritten
  | getTxBufferNum ok =>
    simp only [act, getTxBufferNum] at hAct
    split at hAct
    · generalize (if ok then txBufferNum s.rxBufLen s.txBufCount else s.bufAvailable) = avail
        at hAct
      split at hAct <;> cases hAct <;> exact hWritten
    · cases hAct
  | busDeinit =>
    cases hAct
    exact hWritten
  | busInit =>
    simp only [act, busInitInternal, Option.ite_none_right_eq_some] at hAct
    cases hAct.2
    exact hWritten
  | slaveReset =>
    cases hAct
    exact hWritten

theorem boot_inv (cfg : Config) : CreditInv cfg boot :=
  ⟨rfl, Nat.two_pow_pos 32, rfl, trivial, freeBufs_zero, Nat.zero_le _, Nat.le_refl _,
    Nat.le_refl _⟩

/-- As long as the packets since the last reading have used up what the register had left when the
slave is reset, and free buffers cover what they are ahead of it when the register is read, the
host writes into free buffers only. -/
theorem credit_safe (hRun : Reaches (step cfg) Covered boot s) : CreditSafe s := by
  have hBoth : CreditInv cfg s ∧ WrittenSafe s :=
    hRun.invariant (I := fun s => CreditInv cfg s ∧ WrittenSafe s) ⟨boot_inv cfg, nofun⟩
      fun _ _ _ ⟨h, hWritten⟩ hCovered hStep =>
        ⟨creditInv_step h hCovered hStep, hWritten.step h hStep⟩
  obtain ⟨h, hWritten⟩ := hBoth
  refine ⟨hWritten, ?_, h.free⟩
  rw [h.free]
  exact Nat.le_of_add_right_le h.covered

end Steps

/-- A slave with 20 receive transactions. -/
def twenty : Config := ⟨20, by decide⟩

def frame (payloadLen : Nat) : Packet :=
  { payloadLen, flag := false, hci := false, payloadZcopy := false }

/-- The host has counted a packet before the slave is reset, and writes again when the slave has
loaded enough buffers. -/
theorem credit_safe_reset :
    ∃ s, Reaches (step twenty) Covered boot s ∧ s.written.map Write.bufNeeded = [1, 1] ∧
      s.bufAvailable = 0 ∧ CreditSafe s := by
  obtain ⟨s, hs, hOut⟩ := Option.map_eq_some_iff.mp
    (show (runGuarded (step twenty) Covered boot [.cbRxReady, .writePacket (frame 100) true,
      .getTxBufferNum false, .getTxBufferNum true, .writeDma true false, .busDeinit, .slaveReset,
      .busInit, .cbRxReady, .cbRxReady, .writePacket (frame 1500) true, .getTxBufferNum true,
      .writeDma true false]).map (fun s => (s.written.map Write.bufNeeded, s.bufAvailable)) =
        some ([1, 1], 0) by decide +kernel)
  obtain ⟨hWritten, hAvail⟩ := Prod.mk.inj hOut
  exact ⟨s, .of_run hs, hWritten, hAvail, credit_safe (.of_run hs)⟩

/-- The slave is reset after one packet: the register is 0, the count of the host is 1, and the
next packet is written although no buffer is free. -/
theorem not_credit_safe :
    ¬ ∀ s, Reaches (step twenty) anyStep boot s → CreditSafe s := by
  intro h
  obtain ⟨s, hs, hWritten⟩ := Option.map_eq_some_iff.mp
    (show (run (step twenty) boot [.cbRxReady, .writePacket (frame 100) true,
      .getTxBufferNum true, .writeDma true false, .slaveReset, .writePacket (frame 100) true,
      .getTxBufferNum true, .writeDma true false]).map State.written =
        some [⟨1, 1, 0⟩, ⟨1, 0, 0⟩] by decide +kernel)
  have hSafe := (h s (.of_plain_run hs)).written ⟨1, 0, 0⟩ (by rw [hWritten]; decide)
  revert hSafe
  decide

end EspHosted.SpiHd.Credit
