import EspHosted.Lib.Tlv
import EspHosted.Serial.Frame

/-!
# The events of the handshake

After its start the co-processor sends an event that describes it, and the host answers with an
event that configures the co-processor. Both are rows of records of tag, length and value.
`process_init_event` on the host and `host_to_slave_reconfig` on the co-processor walk them with
an 8-bit count of the bytes that are left.

* `initHandler`, `configHandler`: what the two loops do with a record.
* `processInitEvent`, `hostToSlaveReconfig`: the two functions, over any memory.
* `walks_iff`: the events on which the two loops end, read inside the event and end at its end.
-/

namespace EspHosted.Handshake

open Reads Tlv Serial

/-! ## The event of the co-processor -/

/-- `ESP_PRIV_TAG_TYPE`. -/
def espPrivCapability : UInt8 := 0x11
def espPrivFirmwareChipId : UInt8 := 0x12
def espPrivTestRawTp : UInt8 := 0x13
def espPrivRxQSize : UInt8 := 0x14
def espPrivTxQSize : UInt8 := 0x15
def espPrivCapExt : UInt8 := 0x16
def espPrivFirmwareVersion : UInt8 := 0x17
def espPrivTransSdioMode : UInt8 := 0x18

/-- The branches of `process_init_event`. -/
inductive InitTag
  | capability
  | capExt
  | firmwareChipId
  | testRawTp
  | rxQSize
  | txQSize
  | firmwareVersion
  | transSdioMode
  | unsupported
  deriving DecidableEq

def initTag (tag : UInt8) : InitTag :=
  if tag = espPrivCapability then .capability
  else if tag = espPrivCapExt then .capExt
  else if tag = espPrivFirmwareChipId then .firmwareChipId
  else if tag = espPrivTestRawTp then .testRawTp
  else if tag = espPrivRxQSize then .rxQSize
  else if tag = espPrivTxQSize then .txQSize
  else if tag = espPrivFirmwareVersion then .firmwareVersion
  else if tag = espPrivTransSdioMode then .transSdioMode
  else .unsupported

/-- Options of the host's build: the transport, `TEST_RAW_TP`, streaming mode on SDIO, the chip
that the host is configured for, and what it asks the co-processor for. -/
structure HostBuild where
  transport : Transport
  testRawTp : Bool
  streaming : Bool
  expChipId : UInt8
  testRawTpDir : UInt8
  throttleLowThreshold : UInt8
  throttleHighThreshold : UInt8

/-- What the host has decoded. The capabilities, the queue sizes and the SDIO mode are only
looked at. -/
structure SlaveInfo where
  cap : Option UInt8
  extCap : Nat
  chipType : UInt8
  rawTpConfig : UInt8
  rxQSize : Option UInt8
  txQSize : Option UInt8
  fwVersion : Nat
  sdioMode : Option UInt8
  deriving DecidableEq

/-- `ESP_PRIV_FIRMWARE_CHIP_UNRECOGNIZED`, also the first value of `chip_type`. -/
def chipUnrecognized : UInt8 := 0xff

/-- The variables at the start of `process_init_event`. `chip_type` is from the last event. -/
def SlaveInfo.initial (chipType : UInt8) : SlaveInfo := ⟨none, 0, chipType, 0, none, none, 0, none⟩

/-- Four bytes, the low one first. -/
def le32 (value : Memory) : Nat :=
  (value 0).toNat + (value 1).toNat * 2 ^ 8 + (value 2).toNat * 2 ^ 16 + (value 3).toNat * 2 ^ 24

/-- The bytes of the value that a branch reads. The arguments of a log call are evaluated at
every log level. -/
def initNeed (b : HostBuild) (tag : UInt8) : Nat :=
  match initTag tag with
  | .capExt | .firmwareVersion => 4
  | .transSdioMode => if b.transport = .sdio then 1 else 0
  | .unsupported => 0
  | _ => 1

/-- One record. The result is `none` where the host stops with `H_FATAL`: in
`verify_host_config_for_slave`, and at a streaming co-processor if it is in packet mode. -/
def initAct (b : HostBuild) (tag : UInt8) (value : Memory) (st : SlaveInfo) : Option SlaveInfo :=
  match initTag tag with
  | .capability => some { st with cap := some (value 0) }
  | .capExt => some { st with extCap := le32 value }
  | .firmwareChipId =>
    if value 0 ≠ b.expChipId then none else some { st with chipType := value 0 }
  | .testRawTp => if b.testRawTp then some { st with rawTpConfig := value 0 } else some st
  | .rxQSize => some { st with rxQSize := some (value 0) }
  | .txQSize => some { st with txQSize := some (value 0) }
  | .firmwareVersion => some { st with fwVersion := le32 value }
  | .transSdioMode =>
    if b.transport = .sdio then
      if value 0 ≠ 0 ∧ b.streaming = false then none
      else some { st with sdioMode := some (value 0) }
    else some st
  | .unsupported => some st

theorem le32_congr {value value' : Memory} (h : Agree 4 value value') :
    le32 value = le32 value' := by
  simp only [le32, h 0 (by decide), h 1 (by decide), h 2 (by decide), h 3 (by decide)]

theorem initAct_congr (b : HostBuild) (tag : UInt8) (value value' : Memory) (st : SlaveInfo)
    (h : Agree (initNeed b tag) value value') :
    initAct b tag value st = initAct b tag value' st := by
  unfold initNeed at h
  unfold initAct
  cases hTag : initTag tag <;> simp only [hTag] at h ⊢
  case capExt => rw [le32_congr h]
  case firmwareVersion => rw [le32_congr h]
  case transSdioMode =>
    split
    · rename_i hSdio
      rw [if_pos hSdio] at h
      rw [h 0 Nat.one_pos]
    · rfl
  all_goals rw [h 0 Nat.one_pos]

def initHandler (b : HostBuild) : Handler SlaveInfo where
  need := initNeed b
  act := initAct b
  act_congr := initAct_congr b

/-! ## The event of the host -/

/-- Tags of the configuration. -/
def hostCapabilities : UInt8 := 0x44
def rcvdEspFirmwareChipId : UInt8 := 0x45
def slvConfigTestRawTp : UInt8 := 0x46
def slvConfigThrottleHighThreshold : UInt8 := 0x47
def slvConfigThrottleLowThreshold : UInt8 := 0x48

/-- The branches of `host_to_slave_reconfig`. -/
inductive ConfigTag
  | hostCapabilities
  | rcvdChipId
  | testRawTp
  | throttleHighThreshold
  | throttleLowThreshold
  | unsupported
  deriving DecidableEq

def configTag (tag : UInt8) : ConfigTag :=
  if tag = hostCapabilities then .hostCapabilities
  else if tag = rcvdEspFirmwareChipId then .rcvdChipId
  else if tag = slvConfigTestRawTp then .testRawTp
  else if tag = slvConfigThrottleHighThreshold then .throttleHighThreshold
  else if tag = slvConfigThrottleLowThreshold then .throttleLowThreshold
  else .unsupported

/-- Options of the co-processor's build: `assert` and `TEST_RAW_TP`. -/
structure SlaveBuild where
  assertions : Bool
  testRawTp : Bool

/-- `slv_cfg_g`, and the last argument of `process_test_capabilities`. -/
structure SlaveConfig where
  throttleHighThreshold : UInt8
  throttleLowThreshold : UInt8
  testCapabilities : Option UInt8
  deriving DecidableEq

/-- The host capabilities are not looked at. -/
def configNeed (tag : UInt8) : Nat :=
  match configTag tag with
  | .hostCapabilities | .unsupported => 0
  | _ => 1

/-- One record. A chip id that is not the own one is logged. -/
def configAct (b : SlaveBuild) (tag : UInt8) (value : Memory) (st : SlaveConfig) :
    Option SlaveConfig :=
  match configTag tag with
  | .testRawTp =>
    if b.testRawTp then some { st with testCapabilities := some (value 0) } else some st
  | .throttleHighThreshold => some { st with throttleHighThreshold := value 0 }
  | .throttleLowThreshold => some { st with throttleLowThreshold := value 0 }
  | .hostCapabilities | .rcvdChipId | .unsupported => some st

theorem configAct_congr (b : SlaveBuild) (tag : UInt8) (value value' : Memory) (st : SlaveConfig)
    (h : Agree (configNeed tag) value value') :
    configAct b tag value st = configAct b tag value' st := by
  unfold configNeed at h
  unfold configAct
  cases hTag : configTag tag <;> simp only [hTag] at h ⊢
  all_goals rw [h 0 Nat.one_pos]

def configHandler (b : SlaveBuild) : Handler SlaveConfig where
  need := configNeed
  act := configAct b
  act_congr := configAct_congr b

theorem configAct_ne_none (b : SlaveBuild) (tag : UInt8) (value : Memory) (st : SlaveConfig) :
    configAct b tag value st ≠ none := by
  unfold configAct
  split
  · split <;> nofun
  all_goals nofun

/-! ## The two functions -/

def espPrivEventInit : UInt8 := 0x22

/-- A record of one byte, as both sides write it. -/
def tlv1 (tag value : UInt8) : List UInt8 := [tag, 1, value]

/-- `struct esp_priv_event`. -/
def privEvent (eventData : List UInt8) : List UInt8 :=
  [espPrivEventInit, UInt8.ofNat eventData.length] ++ eventData

/-- The payload that `send_slave_config` transmits when it has a buffer for it. -/
def sendSlaveConfig (hostCap firmwareChipId rawTpDirection lowThrThesh highThrThesh : UInt8) :
    List UInt8 :=
  privEvent (tlv1 hostCapabilities hostCap ++ tlv1 rcvdEspFirmwareChipId firmwareChipId ++
    tlv1 slvConfigTestRawTp rawTpDirection ++
    tlv1 slvConfigThrottleHighThreshold highThrThesh ++
    tlv1 slvConfigThrottleLowThreshold lowThrThesh)

/-- How `process_init_event` ends: it refuses the length, stops with `H_FATAL`, does not know the
chip, or answers with a configuration. -/
inductive InitOutcome
  | refused
  | fatal
  | unrecognized (st : SlaveInfo)
  | active (st : SlaveInfo) (config : List UInt8)
  deriving DecidableEq

/-- The outcome, the place where the loop ended, and what it read. -/
structure Run (ω : Type) where
  outcome : ω
  pos : Nat
  reads : List Range

/-- The chips that are mentioned behind the loop. -/
def knownChips : List UInt8 := [0x0, 0x2, 0x9, 0xC, 0x5, 0xD, 0x17, 0x14, 0x10, 0x1C]

/-- What comes behind the loop. The version is only compared for a warning. -/
def initEnd (b : HostBuild) (st : SlaveInfo) : InitOutcome :=
  if st.chipType ∉ knownChips then .unrecognized { st with chipType := chipUnrecognized }
  else
    .active st (sendSlaveConfig b.testRawTpDir st.chipType st.rawTpConfig b.throttleLowThreshold
      b.throttleHighThreshold)

def processInitEvent (b : HostBuild) (fuel : Nat) (chipType : UInt8) (evtBuf : Memory)
    (len : Nat) : Option (Run InitOutcome) :=
  if 64 ≤ len then some ⟨.refused, 0, []⟩
  else
    (walk (initHandler b) evtBuf fuel (start (len % 256) (SlaveInfo.initial chipType))).map
      fun r => ⟨if r.2 then initEnd b r.1.state else .fatal, r.1.pos, r.1.reads⟩

/-- The outcome is `none` where the assertion fails. -/
def hostToSlaveReconfig (b : SlaveBuild) (fuel : Nat) (cfg : SlaveConfig) (evtBuf : Memory)
    (len : Nat) : Option (Run (Option SlaveConfig)) :=
  if 64 < len ∧ b.assertions then some ⟨none, 0, []⟩
  else
    (walk (configHandler b) evtBuf fuel (start (len % 256) cfg)).map
      fun r => ⟨some r.1.state, r.1.pos, r.1.reads⟩

/-! ## When the loops stay inside the event -/

/-- The bytes of an event. -/
def eventData (evtBuf : Memory) (eventLen : UInt8) : List UInt8 :=
  (List.range eventLen.toNat).map evtBuf

/-- `process_init_event` ends, reads inside the event, and goes on behind the loop only from the
end of the event. -/
def InitProper (b : HostBuild) (chipType : UInt8) (evtBuf : Memory) (eventLen : UInt8) : Prop :=
  ∃ fuel r, processInitEvent b fuel chipType evtBuf eventLen.toNat = some r ∧
    (∀ rd ∈ r.reads, rd.Inside eventLen.toNat) ∧
    (r.outcome ≠ .refused → r.outcome ≠ .fatal → r.pos = eventLen.toNat)

/-- The same for `host_to_slave_reconfig`. -/
def ConfigProper (b : SlaveBuild) (cfg : SlaveConfig) (evtBuf : Memory) (eventLen : UInt8) :
    Prop :=
  ∃ fuel r, hostToSlaveReconfig b fuel cfg evtBuf eventLen.toNat = some r ∧
    (∀ rd ∈ r.reads, rd.Inside eventLen.toNat) ∧
    (r.outcome ≠ none → r.pos = eventLen.toNat)

theorem initEnd_ne (b : HostBuild) (st : SlaveInfo) :
    initEnd b st ≠ .refused ∧ initEnd b st ≠ .fatal := by
  unfold initEnd
  split <;> exact ⟨nofun, nofun⟩

theorem proper_eventData {σ : Type} (h : Handler σ) (evtBuf : Memory) (eventLen : UInt8) (st : σ) :
    Proper h evtBuf (eventLen.toNat % 256) st ↔ Complete h st (eventData evtBuf eventLen) := by
  have hLt := eventLen.toNat_lt
  have hLen : (eventData evtBuf eventLen).length = eventLen.toNat := by simp [eventData]
  have hLoad :
      load (eventData evtBuf eventLen) (fun i => evtBuf (eventLen.toNat + i)) = evtBuf := by
    funext i
    by_cases hi : i < eventLen.toNat
    · simp [load, eventData, hi]
    · simp only [load, hLen, hi, dif_neg, not_false_eq_true]
      congr 1
      omega
  rw [← proper_iff (by omega), hLen, hLoad, Nat.mod_eq_of_lt hLt]

theorem initProper_iff (b : HostBuild) (chipType : UInt8) (evtBuf : Memory) (eventLen : UInt8) :
    InitProper b chipType evtBuf eventLen ↔ 64 ≤ eventLen.toNat ∨
      Complete (initHandler b) (SlaveInfo.initial chipType) (eventData evtBuf eventLen) := by
  by_cases hLen : 64 ≤ eventLen.toNat
  · refine iff_of_true ⟨0, ⟨.refused, 0, []⟩, if_pos hLen, nofun, ?_⟩ (.inl hLen)
    exact fun hNe => absurd rfl hNe
  · simp only [hLen, false_or]
    have hMod : eventLen.toNat % 256 = eventLen.toNat := Nat.mod_eq_of_lt eventLen.toNat_lt
    rw [← proper_eventData]
    constructor
    · rintro ⟨fuel, r, hRun, hReads, hPos⟩
      rw [processInitEvent, if_neg hLen] at hRun
      obtain ⟨⟨w, done⟩, hWalk, rfl⟩ := Option.map_eq_some_iff.mp hRun
      refine ⟨fuel, w, done, hWalk, by rwa [hMod], fun hDone => ?_⟩
      subst hDone
      rw [hMod]
      exact hPos (initEnd_ne b w.state).1 (initEnd_ne b w.state).2
    · rintro ⟨fuel, w, done, hWalk, hReads, hPos⟩
      rw [hMod] at hReads hPos
      refine ⟨fuel, ⟨if done then initEnd b w.state else .fatal, w.pos, w.reads⟩, ?_, hReads, ?_⟩
      · rw [processInitEvent, if_neg hLen, hWalk]
        rfl
      · intro _ hFatal
        cases done with
        | true => exact hPos rfl
        | false => exact absurd rfl hFatal

theorem configProper_iff (b : SlaveBuild) (cfg : SlaveConfig) (evtBuf : Memory)
    (eventLen : UInt8) :
    ConfigProper b cfg evtBuf eventLen ↔ (64 < eventLen.toNat ∧ b.assertions) ∨
      Complete (configHandler b) cfg (eventData evtBuf eventLen) := by
  by_cases hLen : 64 < eventLen.toNat ∧ b.assertions
  · refine iff_of_true ⟨0, ⟨none, 0, []⟩, if_pos hLen, nofun, ?_⟩ (.inl hLen)
    exact fun hNe => absurd rfl hNe
  · simp only [hLen, false_or]
    have hMod : eventLen.toNat % 256 = eventLen.toNat := Nat.mod_eq_of_lt eventLen.toNat_lt
    rw [← proper_eventData]
    constructor
    · rintro ⟨fuel, r, hRun, hReads, hPos⟩
      rw [hostToSlaveReconfig, if_neg hLen] at hRun
      obtain ⟨⟨w, done⟩, hWalk, rfl⟩ := Option.map_eq_some_iff.mp hRun
      refine ⟨fuel, w, done, hWalk, by rwa [hMod], fun _ => ?_⟩
      rw [hMod]
      exact hPos (Option.some_ne_none _)
    · rintro ⟨fuel, w, done, hWalk, hReads, hPos⟩
      rw [hMod] at hReads hPos
      refine ⟨fuel, ⟨some w.state, w.pos, w.reads⟩, ?_, hReads, fun _ => ?_⟩
      · rw [hostToSlaveReconfig, if_neg hLen, hWalk]
        rfl
      · exact hPos (done_of_walk (configAct_ne_none b) hWalk)

/-- Both loops stay inside the event when its records are complete, and otherwise only where the
length is refused before. -/
theorem walks_iff (b : HostBuild) (chipType : UInt8) (sb : SlaveBuild) (cfg : SlaveConfig)
    (evtBuf : Memory) (eventLen : UInt8) :
    (InitProper b chipType evtBuf eventLen ↔ 64 ≤ eventLen.toNat ∨
      Complete (initHandler b) (SlaveInfo.initial chipType) (eventData evtBuf eventLen)) ∧
    (ConfigProper sb cfg evtBuf eventLen ↔ (64 < eventLen.toNat ∧ sb.assertions) ∨
      Complete (configHandler sb) cfg (eventData evtBuf eventLen)) :=
  ⟨initProper_iff b chipType evtBuf eventLen, configProper_iff sb cfg evtBuf eventLen⟩

/-- An event of three bytes, the only record of which claims five bytes of value. -/
def cutEvent : Memory := load [espPrivCapability, 5, 1] fun _ => 0

theorem not_walks :
    ¬ ∀ (b : HostBuild) (chipType : UInt8) (sb : SlaveBuild) (cfg : SlaveConfig) (evtBuf : Memory)
      (eventLen : UInt8),
      InitProper b chipType evtBuf eventLen ∧ ConfigProper sb cfg evtBuf eventLen := by
  intro h
  have hInit := (h ⟨.spi, false, false, 0xD, 0, 0, 0⟩ chipUnrecognized ⟨true, false⟩
    ⟨0, 0, none⟩ cutEvent 3).1
  rcases (initProper_iff _ _ _ _).mp hInit with hLong | hComplete
  · exact absurd hLong (by decide)
  · have hData : eventData cutEvent 3 = [espPrivCapability, 5, 1] := by decide
    rw [hData] at hComplete
    generalize hBytes : [espPrivCapability, 5, 1] = bytes at hComplete
    cases hComplete with
    | done => cases hBytes
    | stop hNeed hStop =>
      cases hBytes
      cases hStop
    | record hTagLen hNeed hAct hRest =>
      have hLen := congrArg List.length hBytes
      obtain ⟨-, hTail⟩ := List.cons.inj hBytes
      obtain ⟨rfl, -⟩ := List.cons.inj hTail
      simp only [List.length_cons, List.length_append, hTagLen] at hLen
      exact absurd hLen (by simp; omega)

end EspHosted.Handshake
