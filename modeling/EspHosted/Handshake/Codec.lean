import EspHosted.Handshake.Events

/-!
# What the handshake tells

The co-processor writes its event record by record, in an order that depends on the transport,
and each side has its own table of tags. The host stops for good if the chip is not the one it
is configured for, or if an SDIO co-processor streams and the host does not.

* `startup_decoded`: otherwise the host decodes what the co-processor wrote.
* `config_decoded`: the co-processor decodes the thresholds that the host wrote.
* `handshake_decoded`: both, with all records used up exactly.
-/

namespace EspHosted.Handshake

open Reads Tlv Serial

/-! ## The event of the co-processor -/

/-- Constants of the co-processor's image: the chip id, the SDIO mode, the queue sizes and the
version of the firmware. -/
structure SlaveImage where
  firmwareChipId : UInt8
  sdioStreaming : Bool
  rxQueueSize : Nat
  txQueueSize : Nat
  fwVersion : Nat

/-- A 32-bit value, the low byte first. -/
def le32Bytes (n : Nat) : List UInt8 :=
  [UInt8.ofNat (n &&& 0xFF), UInt8.ofNat ((n >>> 8) &&& 0xFF), UInt8.ofNat ((n >>> 16) &&& 0xFF),
    UInt8.ofNat ((n >>> 24) &&& 0xFF)]

/-- A record of four bytes. -/
def tlv4 (tag : UInt8) (value : Nat) : List UInt8 := [tag, 4] ++ le32Bytes value

/-- The records of `generate_startup_event`. The SDIO slave has one more than the others, and the
queue sizes the other way round. -/
def startupTlvs (t : Transport) (s : SlaveImage) (cap : UInt8) (extCap : Nat) (rawTpCap : UInt8) :
    List UInt8 :=
  match t with
  | .sdio =>
    tlv1 espPrivFirmwareChipId s.firmwareChipId ++
    tlv1 espPrivTransSdioMode (if s.sdioStreaming then 1 else 0) ++
    tlv1 espPrivCapability cap ++
    tlv4 espPrivCapExt extCap ++
    tlv1 espPrivTestRawTp rawTpCap ++
    tlv1 espPrivTxQSize (UInt8.ofNat s.txQueueSize) ++
    tlv1 espPrivRxQSize (UInt8.ofNat s.rxQueueSize) ++
    tlv4 espPrivFirmwareVersion s.fwVersion
  | .spi | .spiHd | .uart =>
    tlv1 espPrivFirmwareChipId s.firmwareChipId ++
    tlv1 espPrivCapability cap ++
    tlv4 espPrivCapExt extCap ++
    tlv1 espPrivTestRawTp rawTpCap ++
    tlv1 espPrivRxQSize (UInt8.ofNat s.rxQueueSize) ++
    tlv1 espPrivTxQSize (UInt8.ofNat s.txQueueSize) ++
    tlv4 espPrivFirmwareVersion s.fwVersion

/-- The payload of the event. -/
def generateStartupEvent (t : Transport) (s : SlaveImage) (cap : UInt8) (extCap : Nat)
    (rawTpCap : UInt8) : List UInt8 :=
  privEvent (startupTlvs t s cap extCap rawTpCap)

/-! ## Both receivers -/

/-- `process_event` of the host. Other events than INIT are dropped. -/
def processEvent (b : HostBuild) (fuel : Nat) (chipType : UInt8) (evtBuf : Memory) :
    Option (Option (Run InitOutcome)) :=
  if evtBuf 0 = espPrivEventInit then
    (processInitEvent b fuel chipType (fun i => evtBuf (2 + i)) (evtBuf 1).toNat).map some
  else some none

/-- `process_priv_pkt` of the co-processor. -/
def processPrivPkt (b : SlaveBuild) (fuel : Nat) (cfg : SlaveConfig) (payload : Memory) :
    Option (Option (Run (Option SlaveConfig))) :=
  if payload 0 = espPrivEventInit then
    (hostToSlaveReconfig b fuel cfg (fun i => payload (2 + i)) (payload 1).toNat).map some
  else some none

/-! ## Both sides together -/

/-- The host has decoded the values of the co-processor. It takes the raw throughput flag over
if it is built for it, and it looks at the SDIO mode on SDIO. -/
structure Decoded (b : HostBuild) (s : SlaveImage) (cap : UInt8) (extCap : Nat) (rawTpCap : UInt8)
    (info : SlaveInfo) : Prop where
  cap : info.cap = some cap
  extCap : info.extCap = extCap
  chipType : info.chipType = s.firmwareChipId
  rawTpConfig : info.rawTpConfig = if b.testRawTp then rawTpCap else 0
  rxQSize : info.rxQSize.map UInt8.toNat = some s.rxQueueSize
  txQSize : info.txQSize.map UInt8.toNat = some s.txQueueSize
  fwVersion : info.fwVersion = s.fwVersion
  sdioMode : info.sdioMode =
    if b.transport = .sdio then some (if s.sdioStreaming then 1 else 0) else none

/-- The host stops with `H_FATAL`. -/
def Mismatch (b : HostBuild) (s : SlaveImage) : Prop :=
  s.firmwareChipId ≠ b.expChipId ∨
    (b.transport = .sdio ∧ s.sdioStreaming = true ∧ b.streaming = false)

instance (b : HostBuild) (s : SlaveImage) : Decidable (Mismatch b s) :=
  inferInstanceAs (Decidable (_ ∨ _))

/-- Values that fit the fields of the event. -/
structure SlaveImage.Fits (s : SlaveImage) (extCap : Nat) : Prop where
  rxQueueSize : s.rxQueueSize < 256
  txQueueSize : s.txQueueSize < 256
  fwVersion : s.fwVersion < 2 ^ 32
  extCap : extCap < 2 ^ 32

theorem and_0xFF (n : Nat) : n &&& 0xFF = n % 256 := Nat.and_two_pow_sub_one_eq_mod n 8

theorem le32_le32Bytes {n : Nat} (h : n < 2 ^ 32) (behind : Memory) :
    le32 (load (le32Bytes n) behind) = n := by
  simp only [le32, load, le32Bytes, and_0xFF, Nat.shiftRight_eq_div_pow, List.length_cons,
    List.length_nil, List.getElem_cons_zero, List.getElem_cons_succ, UInt8.toNat_ofNat',
    Nat.reduceAdd, Nat.reduceLT, dite_true, Nat.zero_add]
  omega

/-- The records as tags and values. -/
def startupRecords (t : Transport) (s : SlaveImage) (cap : UInt8) (extCap : Nat)
    (rawTpCap : UInt8) : List (UInt8 × List UInt8) :=
  match t with
  | .sdio =>
    [(espPrivFirmwareChipId, [s.firmwareChipId]),
      (espPrivTransSdioMode, [if s.sdioStreaming then 1 else 0]), (espPrivCapability, [cap]),
      (espPrivCapExt, le32Bytes extCap), (espPrivTestRawTp, [rawTpCap]),
      (espPrivTxQSize, [UInt8.ofNat s.txQueueSize]),
      (espPrivRxQSize, [UInt8.ofNat s.rxQueueSize]),
      (espPrivFirmwareVersion, le32Bytes s.fwVersion)]
  | .spi | .spiHd | .uart =>
    [(espPrivFirmwareChipId, [s.firmwareChipId]), (espPrivCapability, [cap]),
      (espPrivCapExt, le32Bytes extCap), (espPrivTestRawTp, [rawTpCap]),
      (espPrivRxQSize, [UInt8.ofNat s.rxQueueSize]),
      (espPrivTxQSize, [UInt8.ofNat s.txQueueSize]),
      (espPrivFirmwareVersion, le32Bytes s.fwVersion)]

theorem startupTlvs_eq (t : Transport) (s : SlaveImage) (cap : UInt8) (extCap : Nat)
    (rawTpCap : UInt8) :
    startupTlvs t s cap extCap rawTpCap = encode (startupRecords t s cap extCap rawTpCap) := by
  cases t <;> rfl

theorem length_startupTlvs (t : Transport) (s : SlaveImage) (cap : UInt8) (extCap : Nat)
    (rawTpCap : UInt8) :
    (startupTlvs t s cap extCap rawTpCap).length = if t = .sdio then 30 else 27 := by
  cases t <;> rfl

/-- The host knows every tag that the co-processor writes. -/
theorem initTag_table :
    initTag espPrivCapability = .capability ∧ initTag espPrivCapExt = .capExt ∧
    initTag espPrivFirmwareChipId = .firmwareChipId ∧ initTag espPrivTestRawTp = .testRawTp ∧
    initTag espPrivRxQSize = .rxQSize ∧ initTag espPrivTxQSize = .txQSize ∧
    initTag espPrivFirmwareVersion = .firmwareVersion ∧
    initTag espPrivTransSdioMode = .transSdioMode := by decide

theorem fits_tlv1 {b : HostBuild} {tag value : UInt8} (hExt : initTag tag ≠ .capExt)
    (hVersion : initTag tag ≠ .firmwareVersion) : Tlv.Fits (initHandler b) (tag, [value]) := by
  refine ⟨?_, Nat.lt_of_sub_eq_succ rfl⟩
  simp only [initHandler, initNeed, List.length_singleton]
  split
  · exact absurd ‹_› hExt
  · exact absurd ‹_› hVersion
  · split <;> decide
  all_goals decide

theorem fits_tlv4 {b : HostBuild} {tag : UInt8} {value : Nat} :
    Tlv.Fits (initHandler b) (tag, le32Bytes value) := by
  refine ⟨?_, Nat.lt_of_sub_eq_succ rfl⟩
  simp only [initHandler, initNeed, le32Bytes, List.length_cons, List.length_nil]
  split
  · decide
  · decide
  · split <;> decide
  all_goals decide

theorem fits_startupRecords (b : HostBuild) (s : SlaveImage) (cap : UInt8) (extCap : Nat)
    (rawTpCap : UInt8) (t : Transport) :
    ∀ r ∈ startupRecords t s cap extCap rawTpCap, Tlv.Fits (initHandler b) r := by
  have hOne : ∀ {tag value : UInt8}, initTag tag ≠ .capExt ∧ initTag tag ≠ .firmwareVersion →
      Tlv.Fits (initHandler b) (tag, [value]) := fun h => fits_tlv1 h.1 h.2
  cases t <;> simp only [startupRecords, List.forall_mem_cons]
  · exact ⟨hOne (by decide), hOne (by decide), hOne (by decide), fits_tlv4, hOne (by decide),
      hOne (by decide), hOne (by decide), fits_tlv4, nofun⟩
  all_goals
    exact ⟨hOne (by decide), hOne (by decide), fits_tlv4, hOne (by decide), hOne (by decide),
      hOne (by decide), fits_tlv4, nofun⟩

theorem toNat_ofNat_of_lt {n : Nat} (h : n < 256) : (UInt8.ofNat n).toNat = n := by
  rw [UInt8.toNat_ofNat']
  omega

theorem load_zero (value : UInt8) (values : List UInt8) (behind : Memory) :
    load (value :: values) behind 0 = value := by
  simp [load]

/-- What the host's variables hold in the end. -/
def decodedInfo (b : HostBuild) (s : SlaveImage) (cap : UInt8) (extCap : Nat) (rawTpCap : UInt8) :
    SlaveInfo where
  cap := some cap
  extCap := extCap
  chipType := s.firmwareChipId
  rawTpConfig := if b.testRawTp then rawTpCap else 0
  rxQSize := some (UInt8.ofNat s.rxQueueSize)
  txQSize := some (UInt8.ofNat s.txQueueSize)
  fwVersion := s.fwVersion
  sdioMode := if b.transport = .sdio then some (if s.sdioStreaming then 1 else 0) else none

theorem decoded_decodedInfo {b : HostBuild} {s : SlaveImage} {cap : UInt8} {extCap : Nat}
    {rawTpCap : UInt8} (hFits : s.Fits extCap) :
    Decoded b s cap extCap rawTpCap (decodedInfo b s cap extCap rawTpCap) where
  cap := rfl
  extCap := rfl
  chipType := rfl
  rawTpConfig := rfl
  rxQSize := congrArg some (toNat_ofNat_of_lt hFits.rxQueueSize)
  txQSize := congrArg some (toNat_ofNat_of_lt hFits.txQueueSize)
  fwVersion := rfl
  sdioMode := rfl

/-- The host's loop over the records. -/
theorem handle_startupRecords {b : HostBuild} {s : SlaveImage} {cap : UInt8} {extCap : Nat}
    {rawTpCap chipType : UInt8} (hFits : s.Fits extCap) :
    handle (initHandler b) (SlaveInfo.initial chipType)
        (startupRecords b.transport s cap extCap rawTpCap) =
      if Mismatch b s then none else some (decodedInfo b s cap extCap rawTpCap) := by
  obtain ⟨hCap, hExt, hChip, hRaw, hRx, hTx, hVersion, hMode⟩ := initTag_table
  have hExtCap := le32_le32Bytes hFits.extCap fun _ => 0
  have hFwVersion := le32_le32Bytes hFits.fwVersion fun _ => 0
  by_cases hChipId : s.firmwareChipId = b.expChipId
  · by_cases hStream : b.transport = .sdio ∧ s.sdioStreaming = true ∧ b.streaming = false
    · obtain ⟨hSdio, hSlave, hHost⟩ := hStream
      have hMismatch : Mismatch b s := .inr ⟨hSdio, hSlave, hHost⟩
      rw [if_pos hMismatch]
      simp [startupRecords, handle, initHandler, initAct, hChip, hMode, load_zero, hChipId, hSdio,
        hSlave, hHost]
    · have hMatch : ¬ Mismatch b s := fun h => h.elim (fun hNe => hNe hChipId) hStream
      rw [if_neg hMatch]
      have hMode' : ∀ st : SlaveInfo, b.transport = .sdio →
          initAct b espPrivTransSdioMode (load [if s.sdioStreaming then 1 else 0] fun _ => 0) st =
            some { st with sdioMode := some (if s.sdioStreaming then 1 else 0) } := by
        intro st hSdio
        have hGo : ¬ ((if s.sdioStreaming then (1 : UInt8) else 0) ≠ 0 ∧ b.streaming = false) := by
          rintro ⟨hSlave, hHost⟩
          cases hOn : s.sdioStreaming with
          | true => exact hStream ⟨hSdio, hOn, hHost⟩
          | false => simp [hOn] at hSlave
        simp only [initAct, hMode, hSdio, if_true, load_zero]
        exact if_neg hGo
      cases hTransport : b.transport <;>
        simp only [startupRecords, handle, initHandler, hMode', hTransport]
      all_goals
        cases hRawTp : b.testRawTp <;>
          simp [initAct, decodedInfo, SlaveInfo.initial, hCap, hExt, hChip, hRaw, hRx, hTx,
            hVersion, hTransport, hRawTp, hChipId, hExtCap, hFwVersion, load_zero]
  · have hMismatch : Mismatch b s := .inl hChipId
    rw [if_pos hMismatch]
    cases b.transport <;>
      simp [startupRecords, handle, initHandler, initAct, hChip, load_zero, hChipId]

theorem privEvent_load (data : List UInt8) (behind : Memory) :
    load (privEvent data) behind 0 = espPrivEventInit ∧
      load (privEvent data) behind 1 = UInt8.ofNat data.length ∧
      (fun i => load (privEvent data) behind (2 + i)) = load data behind :=
  ⟨by simp [load, privEvent], by simp [load, privEvent],
    load_append_drop [espPrivEventInit, UInt8.ofNat data.length] data behind⟩

/-- The host decodes the event of the co-processor, or stops. -/
theorem startup_decoded {b : HostBuild} {s : SlaveImage} {extCap fuel : Nat}
    (cap rawTpCap chipType : UInt8) (behind : Memory) (hFits : s.Fits extCap) (hFuel : 8 < fuel) :
    ∃ r, processEvent b fuel chipType
        (load (generateStartupEvent b.transport s cap extCap rawTpCap) behind) = some (some r) ∧
      (∀ rd ∈ r.reads, rd.Inside (startupTlvs b.transport s cap extCap rawTpCap).length) ∧
      (Mismatch b s → r.outcome = .fatal) ∧
      (¬ Mismatch b s → ∃ info, Decoded b s cap extCap rawTpCap info ∧
        r.outcome = initEnd b info ∧
        r.pos = (startupTlvs b.transport s cap extCap rawTpCap).length) := by
  obtain ⟨hType, hEventLen, hData⟩ :=
    privEvent_load (startupTlvs b.transport s cap extCap rawTpCap) behind
  have hShort : (startupTlvs b.transport s cap extCap rawTpCap).length < 64 := by
    rw [length_startupTlvs]
    split <;> decide
  have hToNat := toNat_ofNat_of_lt (Nat.lt_trans hShort (by decide))
  have hRecords : (startupRecords b.transport s cap extCap rawTpCap).length < fuel := by
    cases b.transport <;> simp [startupRecords] <;> omega
  have hEncode := startupTlvs_eq b.transport s cap extCap rawTpCap
  rw [hEncode] at hShort
  obtain ⟨w, hWalk, hReads, hEnd⟩ := walk_start (h := initHandler b) (SlaveInfo.initial chipType)
    behind (fits_startupRecords b s cap extCap rawTpCap b.transport) (by omega) hRecords
  rw [handle_startupRecords hFits] at hWalk hEnd
  rw [hEncode] at hType hEventLen hData hToNat ⊢
  have hRun : processEvent b fuel chipType
      (load (generateStartupEvent b.transport s cap extCap rawTpCap) behind) =
        some (some ⟨if (if Mismatch b s then none
            else some (decodedInfo b s cap extCap rawTpCap)).isSome then initEnd b w.state
          else .fatal, w.pos, w.reads⟩) := by
    rw [generateStartupEvent, hEncode, processEvent, hType, if_pos rfl, hEventLen, hData, hToNat,
      processInitEvent, if_neg (by omega), Nat.mod_eq_of_lt (by omega), hWalk]
    rfl
  refine ⟨_, hRun, hReads, fun hMismatch => ?_, fun hMatch => ?_⟩
  · simp [hMismatch]
  · rw [if_neg hMatch] at hEnd
    obtain ⟨hState, hPos⟩ := hEnd _ rfl
    refine ⟨decodedInfo b s cap extCap rawTpCap, decoded_decodedInfo hFits, ?_, hPos⟩
    simp [hMatch, hState]

/-! ## The event of the host -/

/-- The records of `send_slave_config`. -/
def configRecords (hostCap firmwareChipId rawTpDirection lowThrThesh highThrThesh : UInt8) :
    List (UInt8 × List UInt8) :=
  [(hostCapabilities, [hostCap]), (rcvdEspFirmwareChipId, [firmwareChipId]),
    (slvConfigTestRawTp, [rawTpDirection]), (slvConfigThrottleHighThreshold, [highThrThesh]),
    (slvConfigThrottleLowThreshold, [lowThrThesh])]

theorem sendSlaveConfig_eq
    (hostCap firmwareChipId rawTpDirection lowThrThesh highThrThesh : UInt8) :
    sendSlaveConfig hostCap firmwareChipId rawTpDirection lowThrThesh highThrThesh =
      privEvent (encode (configRecords hostCap firmwareChipId rawTpDirection lowThrThesh
        highThrThesh)) := rfl

theorem configNeed_le (tag : UInt8) : configNeed tag ≤ 1 := by
  unfold configNeed
  split <;> decide

/-- The co-processor's loop over the records. -/
theorem handle_configRecords (b : SlaveBuild) (cfg : SlaveConfig)
    (hostCap firmwareChipId rawTpDirection lowThrThesh highThrThesh : UInt8) :
    handle (configHandler b) cfg
        (configRecords hostCap firmwareChipId rawTpDirection lowThrThesh highThrThesh) =
      some ⟨highThrThesh, lowThrThesh,
        if b.testRawTp then some rawTpDirection else cfg.testCapabilities⟩ := by
  obtain ⟨asserts, testRawTp⟩ := b
  cases testRawTp <;> rfl

/-- The co-processor decodes the thresholds of the host. -/
theorem config_decoded {fuel : Nat} (b : SlaveBuild) (cfg : SlaveConfig) (behind : Memory)
    (hostCap firmwareChipId rawTpDirection lowThrThesh highThrThesh : UInt8) (hFuel : 5 < fuel) :
    ∃ r st, processPrivPkt b fuel cfg (load (sendSlaveConfig hostCap firmwareChipId rawTpDirection
        lowThrThesh highThrThesh) behind) = some (some r) ∧ r.outcome = some st ∧
      st.throttleLowThreshold = lowThrThesh ∧ st.throttleHighThreshold = highThrThesh ∧
      r.pos = 15 ∧ ∀ rd ∈ r.reads, rd.Inside 15 := by
  have hHandle :=
    handle_configRecords b cfg hostCap firmwareChipId rawTpDirection lowThrThesh highThrThesh
  rw [sendSlaveConfig_eq]
  generalize hRecords : configRecords hostCap firmwareChipId rawTpDirection lowThrThesh
    highThrThesh = records at hHandle ⊢
  have hFifteen : (encode records).length = 15 := by
    rw [← hRecords]
    rfl
  have hFits : ∀ r ∈ records, Tlv.Fits (configHandler b) r := by
    rw [← hRecords]
    simp only [configRecords, List.forall_mem_cons]
    have hOne : ∀ tag value : UInt8, Tlv.Fits (configHandler b) (tag, [value]) := fun tag _ =>
      ⟨configNeed_le tag, Nat.lt_of_sub_eq_succ rfl⟩
    exact ⟨hOne _ _, hOne _ _, hOne _ _, hOne _ _, hOne _ _, nofun⟩
  obtain ⟨hType, hEventLen, hData⟩ := privEvent_load (encode records) behind
  have hLength : records.length < fuel := by
    rw [← hRecords]
    exact hFuel
  obtain ⟨w, hWalk, hReads, hEnd⟩ := walk_start cfg behind hFits (by omega) hLength
  obtain ⟨hState, hPos⟩ := hEnd _ hHandle
  rw [hFifteen] at hWalk hReads hPos hEventLen
  refine ⟨⟨some w.state, w.pos, w.reads⟩, w.state, ?_, rfl, by rw [hState], by rw [hState], hPos,
    hReads⟩
  have hLong : ¬ (64 < 15 ∧ b.assertions) := fun h => absurd h.1 (by decide)
  rw [processPrivPkt, hType, if_pos rfl, hEventLen, hData]
  simp only [hostToSlaveReconfig, show (UInt8.ofNat 15).toNat = 15 from rfl, if_neg hLong,
    show 15 % 256 = 15 from rfl, hWalk, Option.map_some]

/-! ## The handshake -/

/-- Both events are decoded to what was written, with all records used up: the event of the
co-processor unless it does not fit the configuration of the host, and the answer of the host
always. -/
theorem handshake_decoded {b : HostBuild} {s : SlaveImage} {extCap fuel : Nat}
    (cap rawTpCap chipType : UInt8) (sb : SlaveBuild) (cfg : SlaveConfig) (behind : Memory)
    (hostCap firmwareChipId rawTpDirection lowThrThesh highThrThesh : UInt8)
    (hFits : s.Fits extCap) (hFuel : 8 < fuel) :
    (∃ r, processEvent b fuel chipType
        (load (generateStartupEvent b.transport s cap extCap rawTpCap) behind) = some (some r) ∧
      (Mismatch b s → r.outcome = .fatal) ∧
      (¬ Mismatch b s → ∃ info, Decoded b s cap extCap rawTpCap info ∧
        r.outcome = initEnd b info ∧
        r.pos = (startupTlvs b.transport s cap extCap rawTpCap).length)) ∧
    ∃ r st, processPrivPkt sb fuel cfg (load (sendSlaveConfig hostCap firmwareChipId
        rawTpDirection lowThrThesh highThrThesh) behind) = some (some r) ∧ r.outcome = some st ∧
      st.throttleLowThreshold = lowThrThesh ∧ st.throttleHighThreshold = highThrThesh ∧
      r.pos = 15 := by
  obtain ⟨r, hRun, -, hFatal, hDecoded⟩ :=
    startup_decoded (b := b) cap rawTpCap chipType behind hFits hFuel
  obtain ⟨r', st, hRun', hSt, hLow, hHigh, hPos, -⟩ :=
    config_decoded sb cfg behind hostCap firmwareChipId rawTpDirection lowThrThesh highThrThesh
      (show 5 < fuel by omega)
  exact ⟨⟨r, hRun, hFatal, hDecoded⟩, r', st, hRun', hSt, hLow, hHigh, hPos⟩

/-- A host for the ESP32-C6 over SPI, without raw throughput. -/
def spiHost : HostBuild := ⟨.spi, false, false, 0xD, 0, 60, 80⟩

def spiSlave (firmwareChipId : UInt8) : SlaveImage := ⟨firmwareChipId, false, 10, 20, 0x20501⟩

theorem handshake_decoded_spi :
    ∃ r info, processEvent spiHost 9 0xFF
        (load (generateStartupEvent .spi (spiSlave 0xD) 0x61 0x31 0) fun _ => 0) = some (some r) ∧
      r.outcome = initEnd spiHost info ∧ info.extCap = 0x31 ∧ r.pos = 27 := by
  have hFits : (spiSlave 0xD).Fits 0x31 := ⟨by decide, by decide, by decide, by decide⟩
  obtain ⟨⟨r, hRun, -, hDecoded⟩, -⟩ :=
    handshake_decoded (b := spiHost) 0x61 0 0xFF ⟨true, false⟩ ⟨0, 0, none⟩ (fun _ => 0) 0 0xD 0
      60 80 hFits (show 8 < 9 by decide)
  obtain ⟨info, hInfo, hOutcome, hPos⟩ := hDecoded (by decide)
  exact ⟨r, info, hRun, hOutcome, hInfo.extCap, hPos⟩

/-- A chip that the host is not configured for is not decoded. -/
theorem not_decoded :
    ¬ ∀ (b : HostBuild) (s : SlaveImage) (cap : UInt8) (extCap : Nat) (rawTpCap chipType : UInt8)
      (behind : Memory) (fuel : Nat), s.Fits extCap → 8 < fuel →
      ∃ r info config, processEvent b fuel chipType
          (load (generateStartupEvent b.transport s cap extCap rawTpCap) behind) =
            some (some r) ∧ r.outcome = .active info config ∧ info.cap = some cap ∧
        info.extCap = extCap ∧ info.chipType = s.firmwareChipId ∧ info.rawTpConfig = rawTpCap ∧
        info.fwVersion = s.fwVersion := by
  intro h
  have hFits : (spiSlave 0x5).Fits 0x31 := ⟨by decide, by decide, by decide, by decide⟩
  obtain ⟨r, info, config, hRun, hActive, -⟩ :=
    h spiHost (spiSlave 0x5) 0x61 0x31 0 0xFF (fun _ => 0) 9 hFits (by decide)
  obtain ⟨r', hRun', -, hFatal, -⟩ :=
    startup_decoded (b := spiHost) 0x61 0 0xFF (fun _ => 0) hFits (show 8 < 9 by decide)
  rw [hRun] at hRun'
  cases hRun'
  rw [hFatal (.inl (by decide))] at hActive
  cases hActive

end EspHosted.Handshake
