import EspHosted.Lib.Machine

/-!
# Receive accounting of the SPI half-duplex bus

The slave adds the length of every transaction that it loads to a counter of 24 bits and writes
the counter to the register `SPI_HD_REG_TX_BUF_LEN`. The host counts the bytes that it has read,
also modulo 2^24; the difference is what it reads next. The upper bits of the register are
interrupts, which the host clears with a CMD9.

The driver of the slave loads one transaction at a time, the next one after the host has read
the one before.

* `countInv_step_iff`: a step keeps the two counters apart by what is loaded exactly when it
  satisfies `ResetInOrder`: nothing resets the counter of the host, so the slave's may be reset
  only while it makes no difference;
* `accounted`: along such steps the host reads exactly the transaction that is loaded, however
  often the counters roll over.
-/

namespace EspHosted.SpiHd.Accounting

open Machine

/-! ## Model -/

/-- `SPI_HD_BUFFER_SIZE` and `MAX_SPI_HD_BUFFER_SIZE`. -/
def maxSpiHdBufferSize : Nat := 1600

/-- `value & SPI_HD_TX_BUF_LEN_MASK`. -/
def lenBits (value : Nat) : Nat := value % 2 ^ 24

/-- `value & SPI_HD_INT_MASK`. -/
def intBits (value : Nat) : Nat := value / 2 ^ 24 % 4 * 2 ^ 24

/-- A transaction of the slave. -/
structure TxTrans where
  len : Nat
  len_le : len ≤ maxSpiHdBufferSize
  deriving DecidableEq

/-- Where `spi_hd_read_task` is: deleted, waiting for the slave to be ready, waiting for data,
or with the register read, with the CMD9 sent, about to read the data. -/
inductive ReadPc
  | deleted
  | starting
  | waiting
  | regRead (currRxValue : Nat)
  | cleared (currRxValue : Nat)
  | reading (sizeToXfer : Nat)
  deriving DecidableEq

/-- `txBufLen` is the register. `transfers` lists the sizes that the host has computed, each with
the transaction that was loaded then; `ignored` counts the read requests that were ignored. -/
structure State where
  txReadyBufSize : Nat
  txBufLen : Nat
  queue : List TxTrans
  loaded : Option TxTrans
  rxByteCount : Nat
  wifiTxThrottling : Bool
  pc : ReadPc
  transfers : List (Nat × Option TxTrans)
  ignored : Nat

def boot : State :=
  { txReadyBufSize := 0, txBufLen := 0, queue := [], loaded := none, rxByteCount := 0,
    wifiTxThrottling := false, pc := .starting, transfers := [], ignored := 0 }

/-- The next transaction is loaded: `cb_tx_ready`. -/
def cbTxReady (s : State) : Option State :=
  match s.loaded, s.queue with
  | none, tx :: rest =>
    let size := lenBits (lenBits s.txReadyBufSize + tx.len) + intBits s.txReadyBufSize
    some { s with txReadyBufSize := size, txBufLen := size, queue := rest, loaded := some tx }
  | _, _ => none

/-- `h_spi_hd_read_reg` of `SPI_HD_REG_TX_BUF_LEN`, which may fail. -/
def readReg (s : State) (ok : Bool) : Option State :=
  match s.pc with
  | .waiting => some { s with pc := if ok then .regRead s.txBufLen else .waiting }
  | _ => none

/-- `h_spi_hd_send_cmd9`, and `cb_cmd9_recv` if the slave gets it. -/
def cmd9 (s : State) (ok : Bool) : Option State :=
  match s.pc with
  | .regRead currRxValue =>
    some { s with pc := .cleared currRxValue
                  txReadyBufSize := if ok then lenBits s.txReadyBufSize else s.txReadyBufSize }
  | _ => none

/-- `(curr_rx_value - spi_hd_rx_byte_count) & SPI_HD_TX_BUF_LEN_MASK`, of 32-bit values. -/
def sizeToXfer (currRxValue rxByteCount : Nat) : Nat :=
  lenBits ((lenBits currRxValue + 2 ^ 32 - rxByteCount) % 2 ^ 32)

/-- `SPI_HD_INT_START_THROTTLE`, then `SPI_HD_INT_STOP_THROTTLE`. -/
def applyInt (currRxValue : Nat) (throttling : Bool) : Bool :=
  !(currRxValue / 2 ^ 25 % 2 == 1) && (currRxValue / 2 ^ 24 % 2 == 1 || throttling)

/-- The size is computed and checked. -/
def checkSize (s : State) : Option State :=
  match s.pc with
  | .cleared currRxValue =>
    let size := sizeToXfer currRxValue s.rxByteCount
    let s := { s with wifiTxThrottling := applyInt currRxValue s.wifiTxThrottling
                      transfers := s.transfers ++ [(size, s.loaded)] }
    if size = 0 then some { s with pc := .waiting }
    else if maxSpiHdBufferSize < size then
      some { s with pc := .waiting, ignored := s.ignored + 1 }
    else some { s with pc := .reading size }
  | _ => none

/-- `h_spi_hd_read_dma`, which ends the transaction of the slave; the host counts the bytes
whatever its result. -/
def readDma (s : State) : Option State :=
  match s.pc with
  | .reading size =>
    some { s with loaded := none, rxByteCount := lenBits (s.rxByteCount + size), pc := .waiting }
  | _ => none

/-- `bus_deinit_internal` deletes the task. -/
def busDeinitInternal (s : State) : State := { s with pc := .deleted }

def busInitInternal (s : State) : Option State :=
  if s.pc = .deleted then some { s with pc := .starting } else none

/-- The slave is reset while the task of the host is deleted or waits for the slave. -/
def slaveReset (s : State) : Option State :=
  if s.pc = .deleted ∨ s.pc = .starting then
    some { s with txReadyBufSize := 0, txBufLen := 0, queue := [], loaded := none }
  else none

/-- The slave is ready. -/
def openDataPath (s : State) : Option State :=
  if s.pc = .starting then some { s with pc := .waiting } else none

inductive Action
  | send (tx : TxTrans)
  | cbTxReady
  | readReg (ok : Bool)
  | cmd9 (ok : Bool)
  | checkSize
  | readDma
  | busDeinit
  | busInit
  | slaveReset
  | openDataPath
  | powerSaveStopped
  deriving DecidableEq

/-- `FLAG_POWER_SAVE_STOPPED` clears the counter of the slave, not the register. -/
def step (s : State) : Action → Option State
  | .send tx => some { s with queue := s.queue ++ [tx] }
  | .cbTxReady => cbTxReady s
  | .readReg ok => readReg s ok
  | .cmd9 ok => cmd9 s ok
  | .checkSize => checkSize s
  | .readDma => readDma s
  | .busDeinit => some (busDeinitInternal s)
  | .busInit => busInitInternal s
  | .slaveReset => slaveReset s
  | .openDataPath => openDataPath s
  | .powerSaveStopped => some { s with txReadyBufSize := 0 }

/-! ## What is kept -/

/-- Every size that is not 0 is the length of what is loaded, and no request is ignored. -/
structure Accounted (s : State) : Prop where
  exact_size : ∀ e ∈ s.transfers, e.1 ≠ 0 → ∃ tx, e.2 = some tx ∧ e.1 = tx.len
  none_ignored : s.ignored = 0

/-- The slave is reset only while the host has counted 0, and its counter is cleared only while
it stands at 0. -/
def ResetInOrder (s : State) : Action → Prop
  | .slaveReset => s.rxByteCount = 0
  | .powerSaveStopped => lenBits s.txReadyBufSize = 0
  | _ => True

instance (s : State) (a : Action) : Decidable (ResetInOrder s a) := by
  cases a using Action.casesOn <;> unfold ResetInOrder <;> infer_instance

/-- The bytes that are loaded. -/
def loadedLen (loaded : Option TxTrans) : Nat := loaded.elim 0 TxTrans.len

/-- The value stands for what the host has read, without or with what is loaded. -/
def Reads (s : State) (currRxValue : Nat) : Prop :=
  lenBits currRxValue = s.rxByteCount ∨
    lenBits currRxValue = lenBits (s.rxByteCount + loadedLen s.loaded)

/-- What the task of the host knows. -/
def ReadPc.Exact (s : State) : ReadPc → Prop
  | .regRead currRxValue | .cleared currRxValue => Reads s currRxValue
  | .reading size => ∃ tx, s.loaded = some tx ∧ size = tx.len
  | _ => True

/-- The register and the counter of the slave are the bytes that the host has read and those
that are loaded. -/
structure CountInv (s : State) : Prop where
  count_lt : s.rxByteCount < 2 ^ 24
  counter : lenBits s.txReadyBufSize = lenBits (s.rxByteCount + loadedLen s.loaded)
  register : lenBits s.txBufLen = lenBits (s.rxByteCount + loadedLen s.loaded)
  pc : s.pc.Exact s

theorem loadedLen_le (loaded : Option TxTrans) : loadedLen loaded ≤ maxSpiHdBufferSize := by
  cases loaded with
  | none => exact Nat.zero_le _
  | some tx => exact tx.len_le

theorem lenBits_add_intBits (value int : Nat) :
    lenBits (lenBits value + intBits int) = lenBits value := by
  unfold lenBits intBits
  omega

/-- The difference of the counters is what is loaded, also across a roll-over. -/
theorem sizeToXfer_of_reads {s : State} {currRxValue : Nat} (hLt : s.rxByteCount < 2 ^ 24)
    (hReads : Reads s currRxValue) :
    sizeToXfer currRxValue s.rxByteCount = 0 ∨
      sizeToXfer currRxValue s.rxByteCount = loadedLen s.loaded := by
  have hLe := loadedLen_le s.loaded
  unfold maxSpiHdBufferSize at hLe
  unfold Reads at hReads
  unfold sizeToXfer
  rcases hReads with hEq | hEq
  · left
    rw [hEq]
    unfold lenBits
    omega
  · right
    rw [hEq]
    unfold lenBits
    omega

section Steps

variable {s s' : State}

theorem lenBits_of_lt {value : Nat} (hLt : value < 2 ^ 24) : lenBits value = value :=
  Nat.mod_eq_of_lt hLt

theorem CountInv.cbTxReady (h : CountInv s) (hStep : cbTxReady s = some s') : CountInv s' := by
  unfold Accounting.cbTxReady at hStep
  split at hStep
  · rename_i tx rest hLoaded hQueue
    cases hStep
    have hCounter := h.counter
    rw [hLoaded] at hCounter
    have hSize : lenBits (lenBits (lenBits s.txReadyBufSize + tx.len) + intBits s.txReadyBufSize) =
        lenBits (s.rxByteCount + tx.len) := by
      rw [lenBits_add_intBits]
      simp only [loadedLen, Option.elim_none] at hCounter
      unfold lenBits at hCounter ⊢
      omega
    refine ⟨h.count_lt, hSize, hSize, ?_⟩
    -- what the task has read without a transaction it still has read
    have hReads : ∀ curr, Reads s curr → Reads { s with
        txReadyBufSize := lenBits (lenBits s.txReadyBufSize + tx.len) + intBits s.txReadyBufSize
        txBufLen := lenBits (lenBits s.txReadyBufSize + tx.len) + intBits s.txReadyBufSize
        queue := rest, loaded := some tx } curr := by
      rintro curr (hEq | hEq)
      · exact Or.inl hEq
      · rw [hLoaded] at hEq
        exact Or.inl (hEq.trans (lenBits_of_lt h.count_lt))
    have hPc := h.pc
    show s.pc.Exact _
    cases hCase : s.pc with
    | regRead curr =>
      rw [hCase] at hPc
      exact hReads curr hPc
    | cleared curr =>
      rw [hCase] at hPc
      exact hReads curr hPc
    | reading size =>
      rw [hCase] at hPc
      obtain ⟨old, hOld, -⟩ := hPc
      rw [hLoaded] at hOld
      cases hOld
    | deleted | starting | waiting => trivial
  · cases hStep

/-- What the host computes is 0, or the length of what is loaded. -/
theorem CountInv.size (h : CountInv s) {curr : Nat} (hPc : s.pc = .cleared curr)
    (hNe : sizeToXfer curr s.rxByteCount ≠ 0) :
    ∃ tx, s.loaded = some tx ∧ sizeToXfer curr s.rxByteCount = tx.len := by
  have hReads : Reads s curr := by
    have hExact := h.pc
    rwa [hPc] at hExact
  have hSize := (sizeToXfer_of_reads h.count_lt hReads).resolve_left hNe
  cases hLoaded : s.loaded with
  | none => exact absurd (by rw [hSize, hLoaded]; rfl) hNe
  | some tx => exact ⟨tx, rfl, by rw [hSize, hLoaded]; rfl⟩

theorem CountInv.checkSize (h : CountInv s) (hStep : checkSize s = some s') : CountInv s' := by
  unfold Accounting.checkSize at hStep
  split at hStep
  · rename_i hPc
    dsimp only at hStep
    split at hStep
    · cases hStep
      exact ⟨h.count_lt, h.counter, h.register, trivial⟩
    · rename_i hNe
      split at hStep
      · cases hStep
        exact ⟨h.count_lt, h.counter, h.register, trivial⟩
      · cases hStep
        exact ⟨h.count_lt, h.counter, h.register, h.size hPc hNe⟩
  · cases hStep

theorem CountInv.readDma (h : CountInv s) (hStep : readDma s = some s') : CountInv s' := by
  unfold Accounting.readDma at hStep
  split at hStep
  · rename_i size hPc
    cases hStep
    obtain ⟨tx, hLoaded, rfl⟩ : ∃ tx, s.loaded = some tx ∧ size = tx.len := by
      have hExact := h.pc
      rwa [hPc] at hExact
    have hLt : lenBits (s.rxByteCount + tx.len) < 2 ^ 24 := Nat.mod_lt _ (by decide)
    have hCounter := h.counter
    have hRegister := h.register
    rw [hLoaded] at hCounter hRegister
    exact ⟨hLt, hCounter.trans (lenBits_of_lt hLt).symm, hRegister.trans (lenBits_of_lt hLt).symm,
      trivial⟩
  · cases hStep

/-- A step keeps the counters apart by what is loaded exactly when it resets them in order. -/
theorem countInv_step_iff {a : Action} (h : CountInv s) (hStep : step s a = some s') :
    CountInv s' ↔ ResetInOrder s a := by
  cases a with
  | send tx =>
    cases hStep
    exact iff_of_true ⟨h.count_lt, h.counter, h.register, h.pc⟩ trivial
  | cbTxReady => exact iff_of_true (h.cbTxReady hStep) trivial
  | readReg ok =>
    simp only [step, readReg] at hStep
    split at hStep
    · cases hStep
      refine iff_of_true ⟨h.count_lt, h.counter, h.register, ?_⟩ trivial
      cases ok with
      | true => exact Or.inr h.register
      | false => trivial
    · cases hStep
  | cmd9 ok =>
    simp only [step, cmd9] at hStep
    split at hStep
    · rename_i curr hPc
      cases hStep
      refine iff_of_true ⟨h.count_lt, ?_, h.register, ?_⟩ trivial
      · cases ok with
        | true => exact (Nat.mod_mod _ _).trans h.counter
        | false => exact h.counter
      · have hExact := h.pc
        rw [hPc] at hExact
        exact hExact
    · cases hStep
  | checkSize => exact iff_of_true (h.checkSize hStep) trivial
  | readDma => exact iff_of_true (h.readDma hStep) trivial
  | busDeinit =>
    cases hStep
    exact iff_of_true ⟨h.count_lt, h.counter, h.register, trivial⟩ trivial
  | busInit =>
    simp only [step, busInitInternal, Option.ite_none_right_eq_some] at hStep
    cases hStep.2
    exact iff_of_true ⟨h.count_lt, h.counter, h.register, trivial⟩ trivial
  | slaveReset =>
    simp only [step, slaveReset, Option.ite_none_right_eq_some] at hStep
    obtain ⟨hPc, hEq⟩ := hStep
    cases hEq
    constructor
    · intro h'
      have hZero : 0 = lenBits s.rxByteCount := h'.register
      exact (hZero.trans (lenBits_of_lt h.count_lt)).symm
    · intro hReset
      have hZero : (0 : Nat) = lenBits (s.rxByteCount + 0) := by
        rw [show s.rxByteCount = 0 from hReset]
        rfl
      refine ⟨h.count_lt, hZero, hZero, ?_⟩
      show s.pc.Exact _
      rcases hPc with hPc | hPc <;> rw [hPc] <;> trivial
  | openDataPath =>
    simp only [step, openDataPath, Option.ite_none_right_eq_some] at hStep
    cases hStep.2
    exact iff_of_true ⟨h.count_lt, h.counter, h.register, trivial⟩ trivial
  | powerSaveStopped =>
    cases hStep
    constructor
    · intro h'
      have hZero : 0 = lenBits (s.rxByteCount + loadedLen s.loaded) := h'.counter
      exact h.counter.trans hZero.symm
    · intro hReset
      have hZero : (0 : Nat) = lenBits (s.rxByteCount + loadedLen s.loaded) :=
        (h.counter.symm.trans hReset).symm
      exact ⟨h.count_lt, hZero, h.register, h.pc⟩

/-! ## What the host reads -/

theorem Accounted.checkSize (hAcc : Accounted s) (h : CountInv s)
    (hStep : checkSize s = some s') : Accounted s' := by
  unfold Accounting.checkSize at hStep
  split at hStep
  · rename_i curr hPc
    have hSizes : ∀ e ∈ s.transfers ++ [(sizeToXfer curr s.rxByteCount, s.loaded)], e.1 ≠ 0 →
        ∃ tx, e.2 = some tx ∧ e.1 = tx.len := by
      intro e hMem hNe
      rcases List.mem_append.mp hMem with hOld | hNew
      · exact hAcc.exact_size e hOld hNe
      · rw [List.mem_singleton.mp hNew] at hNe ⊢
        exact h.size hPc hNe
    dsimp only at hStep
    split at hStep
    · cases hStep
      exact ⟨hSizes, hAcc.none_ignored⟩
    · rename_i hNe
      obtain ⟨tx, -, hSize⟩ := h.size hPc hNe
      split at hStep
      · rename_i hIgnored
        exact absurd (hSize ▸ hIgnored) (Nat.not_lt_of_le tx.len_le)
      · cases hStep
        exact ⟨hSizes, hAcc.none_ignored⟩
  · cases hStep

/-- Nothing else computes a size. -/
theorem transfers_step {a : Action} (hNe : a ≠ .checkSize) (hStep : step s a = some s') :
    s'.transfers = s.transfers ∧ s'.ignored = s.ignored := by
  cases a with
  | checkSize => exact absurd rfl hNe
  | send tx =>
    cases hStep
    exact ⟨rfl, rfl⟩
  | cbTxReady =>
    simp only [step, cbTxReady] at hStep
    split at hStep <;> cases hStep
    exact ⟨rfl, rfl⟩
  | readReg ok =>
    simp only [step, readReg] at hStep
    split at hStep <;> cases hStep
    exact ⟨rfl, rfl⟩
  | cmd9 ok =>
    simp only [step, cmd9] at hStep
    split at hStep <;> cases hStep
    exact ⟨rfl, rfl⟩
  | readDma =>
    simp only [step, readDma] at hStep
    split at hStep <;> cases hStep
    exact ⟨rfl, rfl⟩
  | busDeinit =>
    cases hStep
    exact ⟨rfl, rfl⟩
  | busInit =>
    simp only [step, busInitInternal, Option.ite_none_right_eq_some] at hStep
    cases hStep.2
    exact ⟨rfl, rfl⟩
  | slaveReset =>
    simp only [step, slaveReset, Option.ite_none_right_eq_some] at hStep
    cases hStep.2
    exact ⟨rfl, rfl⟩
  | openDataPath =>
    simp only [step, openDataPath, Option.ite_none_right_eq_some] at hStep
    cases hStep.2
    exact ⟨rfl, rfl⟩
  | powerSaveStopped =>
    cases hStep
    exact ⟨rfl, rfl⟩

theorem Accounted.step {a : Action} (hAcc : Accounted s) (h : CountInv s)
    (hStep : step s a = some s') : Accounted s' := by
  by_cases hCheck : a = .checkSize
  · subst hCheck
    exact hAcc.checkSize h hStep
  · obtain ⟨hTransfers, hIgnored⟩ := transfers_step hCheck hStep
    exact ⟨hTransfers ▸ hAcc.exact_size, hIgnored.trans hAcc.none_ignored⟩

theorem boot_inv : CountInv boot := ⟨by decide, rfl, rfl, trivial⟩

/-- As long as the slave's counter is reset only while it makes no difference, the host reads
exactly what is loaded and ignores no request, however often the counters roll over. -/
theorem accounted (hRun : Reaches step ResetInOrder boot s) : Accounted s := by
  have hBoth : CountInv s ∧ Accounted s :=
    hRun.invariant (I := fun s => CountInv s ∧ Accounted s) ⟨boot_inv, nofun, rfl⟩
      fun _ _ _ ⟨h, hAcc⟩ hOrder hStep =>
        ⟨(countInv_step_iff h hStep).mpr hOrder, hAcc.step h hStep⟩
  exact hBoth.2

end Steps

/-- The host reads one transaction. -/
def readOne (len : Nat) (hLe : len ≤ maxSpiHdBufferSize) : List Action :=
  [.send ⟨len, hLe⟩, .cbTxReady, .readReg true, .cmd9 true, .checkSize, .readDma]

/-- The bus is restarted before anything is sent; then a read of the register fails, a
transaction is read, and the register is read once more. -/
theorem accounted_readOne :
    ∃ s, Reaches step ResetInOrder boot s ∧ s.transfers.map Prod.fst = [1600, 0] ∧
      Accounted s := by
  obtain ⟨s, hs, hTransfers⟩ := Option.map_eq_some_iff.mp
    (show (runGuarded step ResetInOrder boot (List.flatten [
      [.busDeinit, .busInit, .slaveReset, .powerSaveStopped, .openDataPath, .readReg false],
      readOne 1600 (by decide), [.readReg true, .cmd9 false, .checkSize]])).map
      (fun s => s.transfers.map Prod.fst) = some [1600, 0] by decide +kernel)
  exact ⟨s, .of_run hs, hTransfers, accounted (.of_run hs)⟩

/-- The bus is restarted after the host has read 100 bytes: the counter of the slave starts at 0
again, the count of the host does not, and the request for the next transaction is ignored. -/
theorem not_accounted : ¬ ∀ s, Reaches step anyStep boot s → Accounted s := by
  intro h
  obtain ⟨s, hs, hIgnored⟩ := Option.map_eq_some_iff.mp
    (show (run step boot (List.flatten [[.openDataPath], readOne 100 (by decide),
      [.busDeinit, .busInit, .slaveReset, .openDataPath], (readOne 50 (by decide)).take 5])).map
      State.ignored = some 1 by decide +kernel)
  have hNone := (h s (.of_plain_run hs)).none_ignored
  rw [hIgnored] at hNone
  cases hNone

end EspHosted.SpiHd.Accounting
