import EspHosted.Lib.BitMask
import Mathlib.Data.Bool.Basic

/-!
# The Wi-Fi configuration on the wire

`req_wifi_get_config` puts the configuration of the driver into a message, and
`req_wifi_set_config` takes one out of a message. Both list the fields by hand; flags of one bit
and reserved bits are packed into two words whose layout depends on the version of ESP-IDF.

* `decode_encode_iff`: exactly when a configuration that was put into a message is taken out of
  it again unchanged.
-/

namespace EspHosted.Wifi.ConfigCodec

open BitMask

/-! ## Builds -/

/-- `H_PRESENT_IN_ESP_IDF_5_4_0`, `H_PRESENT_IN_ESP_IDF_5_5_0` and
`H_GOT_AP_CONFIG_PARAM_TRANSITION_DISABLE`. `H_DECODE_WIFI_RESERVED_FIELD` is 1. -/
structure Build where
  idf540 : Bool
  idf550 : Bool
  apTransitionDisable : Bool

/-- A field that only some builds have. -/
abbrev When (present : Bool) (α : Type) : Type := present = true → α

/-- `WIFI_STA_CONFIG_1_MAX_USED_BIT`. -/
def maxUsedBit1 : Nat := 6

/-- `WIFI_STA_CONFIG_2_MAX_USED_BIT`. -/
def Build.maxUsedBit2 (b : Build) : Nat := if b.idf550 then 13 else 10

/-! ## Texts -/

/-- The text up to the terminator. -/
def text {n : Nat} (src : Vector UInt8 n) : List UInt8 := src.toList.takeWhile (· ≠ 0)

/-- `RPC_RESP_COPY_STR` and the `RPC_REQ_COPY_STR` of the host: the text, with its terminator if
that is not behind the end. -/
def copyStr {n : Nat} (src : Vector UInt8 n) (maxLen : Nat) : List UInt8 :=
  (text src ++ [0]).take (min maxLen ((text src).length + 1))

/-- `RPC_RESP_COPY_BYTES`. -/
def copyBytes {n : Nat} (src : Vector UInt8 n) : List UInt8 := src.toList

/-- `RPC_REQ_COPY_BYTES` and `RPC_REQ_COPY_STR` of the co-processor, into an array of zeros. -/
def takeBytes (n numBytes : Nat) (src : List UInt8) : Vector UInt8 n :=
  Vector.ofFn fun i => if i.val < min (min n numBytes) src.length then src.getD i.val 0 else 0

def ssidLength : Nat := 32
def passwordLength : Nat := 64
def bssidBytesSize : Nat := 6
def saeH2eIdentifierLen : Nat := 32

/-! ## Configurations of the driver -/

structure ScanThreshold (b : Build) where
  rssi : Int8
  authmode : Int32
  rssi5gAdjustment : When b.idf540 UInt8

structure PmfConfig where
  capable : Bool
  required : Bool

/-- `wifi_sta_config_t`. -/
@[ext]
structure StaConfig (b : Build) where
  ssid : Vector UInt8 ssidLength
  password : Vector UInt8 passwordLength
  scanMethod : Int32
  bssidSet : Bool
  bssid : Vector UInt8 bssidBytesSize
  channel : UInt8
  listenInterval : UInt16
  sortMethod : Int32
  threshold : ScanThreshold b
  pmfCfg : PmfConfig
  rmEnabled : Bool
  btmEnabled : Bool
  mboEnabled : Bool
  ftEnabled : Bool
  oweEnabled : Bool
  transitionDisable : Bool
  reserved1 : BitVec (32 - maxUsedBit1)
  saePweH2e : Int32
  saePkMode : UInt32
  failureRetryCnt : UInt8
  heDcmSet : Bool
  heDcmMaxConstellationTx : BitVec 2
  heDcmMaxConstellationRx : BitVec 2
  heMcs9Enabled : Bool
  heSuBeamformeeDisabled : Bool
  heTrigSuBmformingFeedbackDisabled : Bool
  heTrigMuBmformingPartialFeedbackDisabled : Bool
  heTrigCqiFeedbackDisabled : Bool
  vhtSuBeamformeeDisabled : When b.idf550 Bool
  vhtMuBeamformeeDisabled : When b.idf550 Bool
  vhtMcs8Enabled : When b.idf550 Bool
  reserved2 : BitVec (32 - b.maxUsedBit2)
  saeH2eIdentifier : Vector UInt8 saeH2eIdentifierLen

structure BssMaxIdleConfig where
  period : UInt16
  protectedKeepAlive : Bool

/-- `wifi_ap_config_t`. -/
@[ext]
structure ApConfig (b : Build) where
  ssid : Vector UInt8 ssidLength
  password : Vector UInt8 passwordLength
  ssidLen : UInt8
  channel : UInt8
  authmode : Int32
  ssidHidden : UInt8
  maxConnection : UInt8
  beaconInterval : UInt16
  csaCount : UInt8
  dtimPeriod : UInt8
  pairwiseCipher : Int32
  ftmResponder : Bool
  pmfCfg : PmfConfig
  saePweH2e : Int32
  transitionDisable : When b.apTransitionDisable UInt8
  saeExt : When b.idf550 UInt8
  bssMaxIdleCfg : When b.idf550 BssMaxIdleConfig
  gtkRekeyInterval : When b.idf550 UInt16

/-- `wifi_config_t` with the interface that it is for. -/
inductive Config (b : Build)
  | sta (c : StaConfig b)
  | ap (c : ApConfig b)

/-! ## Messages -/

/-- `WifiScanThreshold`. -/
structure ThresholdMsg where
  rssi : Int32
  authmode : Int32
  rssi5gAdjustment : UInt32

/-- `WifiPmfConfig`. -/
structure PmfMsg where
  capable : Bool
  required : Bool

/-- `WifiStaConfig`. -/
structure StaMsg where
  ssid : List UInt8
  password : List UInt8
  scanMethod : Int32
  bssidSet : Bool
  bssid : List UInt8
  channel : UInt32
  listenInterval : UInt32
  sortMethod : Int32
  threshold : Option ThresholdMsg
  pmfCfg : Option PmfMsg
  bitmask : BitVec 32
  saePweH2e : Int32
  failureRetryCnt : UInt32
  heBitmask : BitVec 32
  saeH2eIdentifier : List UInt8
  saePkMode : UInt32

/-- `WifiBssMaxIdleConfig`. -/
structure BssMaxIdleMsg where
  period : UInt32
  protectedKeepAlive : Bool

/-- `WifiApConfig`. -/
structure ApMsg where
  ssid : List UInt8
  password : List UInt8
  ssidLen : UInt32
  channel : UInt32
  authmode : Int32
  ssidHidden : UInt32
  maxConnection : UInt32
  beaconInterval : UInt32
  pairwiseCipher : Int32
  ftmResponder : Bool
  pmfCfg : Option PmfMsg
  saePweH2e : Int32
  csaCount : UInt32
  dtimPeriod : UInt32
  transitionDisable : UInt32
  saeExt : UInt32
  bssMaxIdleCfg : Option BssMaxIdleMsg
  gtkRekeyInterval : UInt32

/-- `WifiConfig`. -/
inductive Msg
  | sta (m : StaMsg)
  | ap (m : ApMsg)

/-! ## Encoding -/

/-- The value of a field in the builds that have it. -/
def When.getD {present : Bool} {α : Type} (x : When present α) (default : α) : α :=
  if h : present = true then x h else default

def PmfConfig.encode (c : PmfConfig) : PmfMsg := ⟨c.capable, c.required⟩

def ScanThreshold.encode {b : Build} (c : ScanThreshold b) : ThresholdMsg :=
  { rssi := c.rssi.toInt32, authmode := c.authmode,
    rssi5gAdjustment := (When.getD c.rssi5gAdjustment 0).toUInt32 }

/-- The first bit mask, with `WIFI_STA_CONFIG_1_SET_RESERVED_VAL`. -/
def StaConfig.bitmask {b : Build} (c : StaConfig b) : BitVec 32 :=
  setField maxUsedBit1 c.reserved1 <| setBit 5 c.transitionDisable <| setBit 4 c.oweEnabled <|
    setBit 3 c.ftEnabled <| setBit 2 c.mboEnabled <| setBit 1 c.btmEnabled <|
    setBit 0 c.rmEnabled 0

/-- The second bit mask, with `WIFI_STA_CONFIG_2_SET_RESERVED_VAL`. -/
def StaConfig.heBitmask {b : Build} (c : StaConfig b) : BitVec 32 :=
  setField b.maxUsedBit2 c.reserved2 <| setBit 12 (When.getD c.vhtMcs8Enabled false) <|
    setBit 11 (When.getD c.vhtMuBeamformeeDisabled false) <|
    setBit 10 (When.getD c.vhtSuBeamformeeDisabled false) <|
    setBit 9 c.heTrigCqiFeedbackDisabled <| setBit 8 c.heTrigMuBmformingPartialFeedbackDisabled <|
    setBit 7 c.heTrigSuBmformingFeedbackDisabled <| setBit 6 c.heSuBeamformeeDisabled <|
    setBit 5 c.heMcs9Enabled <| setField 3 c.heDcmMaxConstellationRx <|
    setField 1 c.heDcmMaxConstellationTx <| setBit 0 c.heDcmSet 0

/-- `copy_wifi_sta_cfg_to_rpc_struct`, which does not copy `sae_h2e_identifier`. -/
def copyWifiStaCfgToRpcStruct {b : Build} (c : StaConfig b) : StaMsg :=
  { ssid := copyStr c.ssid ssidLength
    password := copyStr c.password passwordLength
    bssid := copyBytes c.bssid
    scanMethod := c.scanMethod
    bssidSet := c.bssidSet
    channel := c.channel.toUInt32
    listenInterval := c.listenInterval.toUInt32
    sortMethod := c.sortMethod
    threshold := some c.threshold.encode
    pmfCfg := some c.pmfCfg.encode
    bitmask := c.bitmask
    saePweH2e := c.saePweH2e
    saePkMode := c.saePkMode
    failureRetryCnt := c.failureRetryCnt.toUInt32
    heBitmask := c.heBitmask
    saeH2eIdentifier := [] }

def BssMaxIdleConfig.encode (c : BssMaxIdleConfig) : BssMaxIdleMsg :=
  ⟨c.period.toUInt32, c.protectedKeepAlive⟩

/-- The AP case of `req_wifi_get_config`. -/
def ApConfig.encode {b : Build} (c : ApConfig b) : ApMsg :=
  { password := copyStr c.password passwordLength
    ssidLen := c.ssidLen.toUInt32
    ssid := if c.ssidLen ≠ 0 then copyStr c.ssid ssidLength else []
    channel := c.channel.toUInt32
    authmode := c.authmode
    ssidHidden := c.ssidHidden.toUInt32
    maxConnection := c.maxConnection.toUInt32
    beaconInterval := c.beaconInterval.toUInt32
    csaCount := c.csaCount.toUInt32
    dtimPeriod := c.dtimPeriod.toUInt32
    pairwiseCipher := c.pairwiseCipher
    ftmResponder := c.ftmResponder
    pmfCfg := some c.pmfCfg.encode
    saePweH2e := c.saePweH2e
    transitionDisable := (When.getD c.transitionDisable 0).toUInt32
    saeExt := (When.getD c.saeExt 0).toUInt32
    bssMaxIdleCfg := if h : b.idf550 = true then some (c.bssMaxIdleCfg h).encode else none
    gtkRekeyInterval := (When.getD c.gtkRekeyInterval 0).toUInt32 }

/-- The message of `req_wifi_get_config`. -/
def reqWifiGetConfig {b : Build} : Config b → Msg
  | .sta c => .sta (copyWifiStaCfgToRpcStruct c)
  | .ap c => .ap c.encode

/-! ## Decoding -/

def PmfMsg.decode : Option PmfMsg → PmfConfig
  | some m => ⟨m.capable, m.required⟩
  | none => ⟨false, false⟩

def ThresholdMsg.decode (b : Build) : Option ThresholdMsg → ScanThreshold b
  | some m => ⟨m.rssi.toInt8, m.authmode, fun _ => m.rssi5gAdjustment.toUInt8⟩
  | none => ⟨0, 0, fun _ => 0⟩

/-- `WIFI_STA_CONFIG_1_RESERVED_BITMASK`. -/
def reservedBitmask1 : BitVec 32 := 0xFFFFFFC0#32

/-- `WIFI_STA_CONFIG_2_RESERVED_BITMASK`. -/
def Build.reservedBitmask2 (b : Build) : BitVec 32 :=
  if b.idf550 then 0xFFFFE000#32 else 0xFFFFFC00#32

/-- The station case of `req_wifi_set_config`. -/
def StaMsg.decode (b : Build) (m : StaMsg) : StaConfig b :=
  { ssid := takeBytes ssidLength ssidLength m.ssid
    password := takeBytes passwordLength passwordLength m.password
    scanMethod := m.scanMethod
    bssidSet := m.bssidSet
    bssid := if m.bssidSet then takeBytes bssidBytesSize bssidBytesSize m.bssid
      else Vector.replicate bssidBytesSize 0
    channel := m.channel.toUInt8
    listenInterval := m.listenInterval.toUInt16
    sortMethod := m.sortMethod
    threshold := ThresholdMsg.decode b m.threshold
    pmfCfg := PmfMsg.decode m.pmfCfg
    rmEnabled := getBit 0 m.bitmask
    btmEnabled := getBit 1 m.bitmask
    mboEnabled := getBit 2 m.bitmask
    ftEnabled := getBit 3 m.bitmask
    oweEnabled := getBit 4 m.bitmask
    transitionDisable := getBit 5 m.bitmask
    reserved1 := getField (32 - maxUsedBit1) maxUsedBit1 (m.bitmask &&& reservedBitmask1)
    saePweH2e := m.saePweH2e
    saePkMode := m.saePkMode
    failureRetryCnt := m.failureRetryCnt.toUInt8
    heDcmSet := getBit 0 m.heBitmask
    heDcmMaxConstellationTx := getField 2 1 m.heBitmask
    heDcmMaxConstellationRx := getField 2 3 m.heBitmask
    heMcs9Enabled := getBit 5 m.heBitmask
    heSuBeamformeeDisabled := getBit 6 m.heBitmask
    heTrigSuBmformingFeedbackDisabled := getBit 7 m.heBitmask
    heTrigMuBmformingPartialFeedbackDisabled := getBit 8 m.heBitmask
    heTrigCqiFeedbackDisabled := getBit 9 m.heBitmask
    vhtSuBeamformeeDisabled := fun _ => getBit 10 m.heBitmask
    vhtMuBeamformeeDisabled := fun _ => getBit 11 m.heBitmask
    vhtMcs8Enabled := fun _ => getBit 12 m.heBitmask
    reserved2 := getField (32 - b.maxUsedBit2) b.maxUsedBit2 (m.heBitmask &&& b.reservedBitmask2)
    saeH2eIdentifier := takeBytes saeH2eIdentifierLen saeH2eIdentifierLen m.saeH2eIdentifier }

def BssMaxIdleMsg.decode : Option BssMaxIdleMsg → BssMaxIdleConfig
  | some m => ⟨m.period.toUInt16, m.protectedKeepAlive⟩
  | none => ⟨0, false⟩

/-- The AP case of `req_wifi_set_config`. -/
def ApMsg.decode (b : Build) (m : ApMsg) : ApConfig b :=
  { ssid := takeBytes ssidLength ssidLength m.ssid
    ssidLen := m.ssidLen.toUInt8
    password := takeBytes passwordLength passwordLength m.password
    channel := m.channel.toUInt8
    authmode := m.authmode
    ssidHidden := m.ssidHidden.toUInt8
    maxConnection := m.maxConnection.toUInt8
    beaconInterval := m.beaconInterval.toUInt16
    csaCount := m.csaCount.toUInt8
    dtimPeriod := m.dtimPeriod.toUInt8
    pairwiseCipher := m.pairwiseCipher
    ftmResponder := m.ftmResponder
    pmfCfg := PmfMsg.decode m.pmfCfg
    saePweH2e := m.saePweH2e
    transitionDisable := fun _ => m.transitionDisable.toUInt8
    saeExt := fun _ => m.saeExt.toUInt8
    bssMaxIdleCfg := fun _ => BssMaxIdleMsg.decode m.bssMaxIdleCfg
    gtkRekeyInterval := fun _ => m.gtkRekeyInterval.toUInt16 }

/-- What `req_wifi_set_config` gives to the driver. -/
def reqWifiSetConfig (b : Build) : Msg → Config b
  | .sta m => .sta (m.decode b)
  | .ap m => .ap (m.decode b)

/-! ## What survives -/

/-- Only zeros are behind the terminator of a text. -/
def Terminated {n : Nat} (src : Vector UInt8 n) : Prop :=
  ∀ c ∈ src.toList.dropWhile (· ≠ 0), c = 0

instance {n : Nat} (src : Vector UInt8 n) : Decidable (Terminated src) :=
  inferInstanceAs (Decidable (∀ c ∈ _, c = 0))

def Config.Survives {b : Build} : Config b → Prop
  | .sta c => Terminated c.ssid ∧ Terminated c.password ∧
      (c.bssidSet = false → c.bssid = Vector.replicate bssidBytesSize 0) ∧
      c.saeH2eIdentifier = Vector.replicate saeH2eIdentifierLen 0
  | .ap c => Terminated c.password ∧
      if c.ssidLen = 0 then c.ssid = Vector.replicate ssidLength 0 else Terminated c.ssid

/-! ## Texts that survive -/

variable {n : Nat} {v : Vector UInt8 n}

theorem text_length_le (v : Vector UInt8 n) : (text v).length ≤ n := by
  calc (text v).length ≤ v.toList.length := (List.takeWhile_prefix _).length_le
    _ = n := Vector.length_toList

/-- `memcpy` into an array of zeros. -/
theorem getElem_takeBytes {src : List UInt8} {i : Nat} (hi : i < n) :
    (takeBytes n n src)[i] = src.getD i 0 := by
  simp only [takeBytes, Vector.getElem_ofFn, Nat.min_self]
  split
  · rfl
  · rw [List.getD_eq_getElem?_getD, List.getElem?_eq_none (by omega), Option.getD_none]

/-- An array of zeros into which a text was copied. -/
theorem takeBytes_copyStr (v : Vector UInt8 n) : (takeBytes n n (copyStr v n)).toList =
    text v ++ List.replicate (n - (text v).length) 0 := by
  have hLe := text_length_le v
  refine List.ext_getElem ?_ fun i hi _ => ?_
  · rw [Vector.length_toList, List.length_append, List.length_replicate]
    omega
  · rw [Vector.length_toList] at hi
    rw [Vector.getElem_toList, getElem_takeBytes hi, copyStr, List.getD_eq_getElem?_getD,
      List.getElem?_take, List.getElem_append]
    by_cases hText : i < (text v).length
    · rw [if_pos (by omega), dif_pos hText, List.getElem?_append_left hText,
        List.getElem?_eq_getElem hText, Option.getD_some]
    · rw [dif_neg hText, List.getElem_replicate]
      split
      · rw [List.getElem?_append_right (by omega), show i - (text v).length = 0 by omega]
        rfl
      · rfl

theorem takeBytes_copyStr_iff : takeBytes n n (copyStr v n) = v ↔ Terminated v := by
  have hSplit : text v ++ v.toList.dropWhile (· ≠ 0) = v.toList := List.takeWhile_append_dropWhile
  have hLength : (v.toList.dropWhile (· ≠ 0)).length = n - (text v).length := by
    have hSum := congrArg List.length hSplit
    rw [List.length_append, Vector.length_toList] at hSum
    omega
  calc takeBytes n n (copyStr v n) = v
      ↔ text v ++ List.replicate (n - (text v).length) 0 =
          text v ++ v.toList.dropWhile (· ≠ 0) := by
        rw [← Vector.toList_inj, takeBytes_copyStr, hSplit]
    _ ↔ v.toList.dropWhile (· ≠ 0) = List.replicate (n - (text v).length) 0 := by
        rw [List.append_cancel_left_eq, eq_comm]
    _ ↔ Terminated v := by
        rw [List.eq_replicate_iff, and_iff_right hLength]
        rfl

theorem takeBytes_copyBytes (v : Vector UInt8 n) : takeBytes n n (copyBytes v) = v := by
  refine Vector.ext fun i hi => ?_
  rw [getElem_takeBytes hi, copyBytes, List.getD_eq_getElem?_getD,
    List.getElem?_eq_getElem (by rw [Vector.length_toList]; exact hi), Option.getD_some,
    Vector.getElem_toList]

theorem takeBytes_nil (n : Nat) : takeBytes n n [] = Vector.replicate n 0 := by
  refine Vector.ext fun i hi => ?_
  rw [getElem_takeBytes hi, Vector.getElem_replicate]
  rfl

/-! ## Bits that survive -/

variable {b : Build}

/-- A field of some builds comes back in those builds. -/
theorem getD_when {present : Bool} {α : Type} (x : When present α) (default : α) :
    (fun _ => When.getD x default) = x := by
  funext h
  rw [When.getD, dif_pos h]

theorem getLsbD_bitmask (c : StaConfig b) {i : Nat} (hi : i < 32) : c.bitmask.getLsbD i =
    ((c.rmEnabled && decide (i = 0) || c.btmEnabled && decide (i = 1) ||
      c.mboEnabled && decide (i = 2) || c.ftEnabled && decide (i = 3) ||
      c.oweEnabled && decide (i = 4) || c.transitionDisable && decide (i = 5)) ||
      decide (maxUsedBit1 ≤ i) && c.reserved1.getLsbD (i - maxUsedBit1)) := by
  unfold StaConfig.bitmask
  rw [getLsbD_setField _ _ hi]
  simp (disch := decide) only [getLsbD_setBit, BitVec.ofNat_eq_ofNat, BitVec.getLsbD_zero,
    Bool.false_or]

/-- No flag is in the place of another one, and none is in the reserved bits. -/
theorem bitmask_flags (c : StaConfig b) : getBit 0 c.bitmask = c.rmEnabled ∧
    getBit 1 c.bitmask = c.btmEnabled ∧ getBit 2 c.bitmask = c.mboEnabled ∧
    getBit 3 c.bitmask = c.ftEnabled ∧ getBit 4 c.bitmask = c.oweEnabled ∧
    getBit 5 c.bitmask = c.transitionDisable := by
  refine ⟨?_, ?_, ?_, ?_, ?_, ?_⟩ <;>
  · rw [getBit_eq (by decide), getLsbD_bitmask c (by decide)]
    simp [maxUsedBit1]

theorem bitmask_reserved (c : StaConfig b) :
    getField (32 - maxUsedBit1) maxUsedBit1 (c.bitmask &&& reservedBitmask1) = c.reserved1 := by
  refine getField_eq fun i hi => ?_
  have hMask : ∀ i < 26, reservedBitmask1.getLsbD (6 + i) = true := by decide
  have hi : i < 26 := hi
  have hWord : maxUsedBit1 + i < 32 := by
    unfold maxUsedBit1
    omega
  rw [BitVec.getLsbD_and, show reservedBitmask1.getLsbD (maxUsedBit1 + i) = true from hMask i hi,
    Bool.and_true, getLsbD_bitmask c hWord, Nat.add_sub_cancel_left]
  have hFlag : ∀ k < 6, decide (maxUsedBit1 + i = k) = false := by
    intro k hk
    unfold maxUsedBit1
    exact decide_eq_false (by omega)
  simp (disch := decide) only [hFlag, Bool.and_false, Bool.false_or, Nat.le_add_right,
    decide_true, Bool.true_and]

theorem getLsbD_heBitmask (c : StaConfig b) {i : Nat} (hi : i < 32) : c.heBitmask.getLsbD i =
    ((c.heDcmSet && decide (i = 0) ||
      decide (1 ≤ i) && c.heDcmMaxConstellationTx.getLsbD (i - 1) ||
      decide (3 ≤ i) && c.heDcmMaxConstellationRx.getLsbD (i - 3) ||
      c.heMcs9Enabled && decide (i = 5) || c.heSuBeamformeeDisabled && decide (i = 6) ||
      c.heTrigSuBmformingFeedbackDisabled && decide (i = 7) ||
      c.heTrigMuBmformingPartialFeedbackDisabled && decide (i = 8) ||
      c.heTrigCqiFeedbackDisabled && decide (i = 9) ||
      When.getD c.vhtSuBeamformeeDisabled false && decide (i = 10) ||
      When.getD c.vhtMuBeamformeeDisabled false && decide (i = 11) ||
      When.getD c.vhtMcs8Enabled false && decide (i = 12)) ||
      decide (b.maxUsedBit2 ≤ i) && c.reserved2.getLsbD (i - b.maxUsedBit2)) := by
  unfold StaConfig.heBitmask
  rw [getLsbD_setField _ _ hi]
  simp (disch := first | decide | exact hi) only [getLsbD_setBit, getLsbD_setField,
    BitVec.ofNat_eq_ofNat, BitVec.getLsbD_zero, Bool.false_or]

theorem ten_le_maxUsedBit2 (b : Build) : 10 ≤ b.maxUsedBit2 := by
  unfold Build.maxUsedBit2
  split <;> decide

/-- The first ten bits are not reserved in any build. -/
theorem not_reserved (b : Build) {k : Nat} (hk : k < 10) : decide (b.maxUsedBit2 ≤ k) = false := by
  have hTen := ten_le_maxUsedBit2 b
  exact decide_eq_false (by omega)

/-- The flags of the second bit mask that all builds have. -/
theorem heBitmask_flags (c : StaConfig b) : getBit 0 c.heBitmask = c.heDcmSet ∧
    getBit 5 c.heBitmask = c.heMcs9Enabled ∧ getBit 6 c.heBitmask = c.heSuBeamformeeDisabled ∧
    getBit 7 c.heBitmask = c.heTrigSuBmformingFeedbackDisabled ∧
    getBit 8 c.heBitmask = c.heTrigMuBmformingPartialFeedbackDisabled ∧
    getBit 9 c.heBitmask = c.heTrigCqiFeedbackDisabled := by
  refine ⟨?_, ?_, ?_, ?_, ?_, ?_⟩ <;>
  · rw [getBit_eq (by decide), getLsbD_heBitmask c (by decide), not_reserved b (by decide)]
    simp

/-- The two fields of two bits are beside each other. -/
theorem heBitmask_dcm (c : StaConfig b) :
    getField 2 1 c.heBitmask = c.heDcmMaxConstellationTx ∧
    getField 2 3 c.heBitmask = c.heDcmMaxConstellationRx := by
  constructor
  · refine getField_eq fun i hi => ?_
    obtain rfl | rfl : i = 0 ∨ i = 1 := by omega
    all_goals
      rw [getLsbD_heBitmask c (by decide), not_reserved b (by decide)]
      simp
  · refine getField_eq fun i hi => ?_
    obtain rfl | rfl : i = 0 ∨ i = 1 := by omega
    all_goals
      rw [getLsbD_heBitmask c (by decide), not_reserved b (by decide)]
      simp

/-- The flags of the builds with the longer layout. -/
theorem heBitmask_vht (c : StaConfig b) (h : b.idf550 = true) :
    getBit 10 c.heBitmask = c.vhtSuBeamformeeDisabled h ∧
    getBit 11 c.heBitmask = c.vhtMuBeamformeeDisabled h ∧
    getBit 12 c.heBitmask = c.vhtMcs8Enabled h := by
  have hMax : ∀ k < 13, decide (b.maxUsedBit2 ≤ k) = false := fun k hk =>
    decide_eq_false (by rw [Build.maxUsedBit2, if_pos h]; omega)
  refine ⟨?_, ?_, ?_⟩ <;>
  · rw [getBit_eq (by decide), getLsbD_heBitmask c (by decide), hMax _ (by decide)]
    simp [When.getD, h]

theorem heBitmask_reserved (c : StaConfig b) :
    getField (32 - b.maxUsedBit2) b.maxUsedBit2 (c.heBitmask &&& b.reservedBitmask2) =
      c.reserved2 := by
  refine getField_eq fun i hi => ?_
  have hTen := ten_le_maxUsedBit2 b
  have hMask : b.reservedBitmask2.getLsbD (b.maxUsedBit2 + i) = true := by
    unfold Build.reservedBitmask2 Build.maxUsedBit2
    unfold Build.maxUsedBit2 at hi
    split at hi
    · rw [if_pos ‹_›, if_pos ‹_›]
      exact (by decide : ∀ i < 19, (0xFFFFE000#32).getLsbD (13 + i) = true) i hi
    · rw [if_neg ‹_›, if_neg ‹_›]
      exact (by decide : ∀ i < 22, (0xFFFFFC00#32).getLsbD (10 + i) = true) i hi
  have hVht : ∀ (x : When b.idf550 Bool) (k : Nat), k < 13 →
      (When.getD x false && decide (b.maxUsedBit2 + i = k)) = false := by
    intro x k hk
    unfold When.getD Build.maxUsedBit2
    split
    · rw [decide_eq_false (by omega), Bool.and_false]
    · rfl
  have hFlag : ∀ k < 10, decide (b.maxUsedBit2 + i = k) = false := fun k hk =>
    decide_eq_false (by omega)
  rw [BitVec.getLsbD_and, hMask, Bool.and_true, getLsbD_heBitmask c (by omega),
    Nat.add_sub_cancel_left, BitVec.getLsbD_of_ge c.heDcmMaxConstellationTx _ (by omega),
    BitVec.getLsbD_of_ge c.heDcmMaxConstellationRx _ (by omega)]
  simp (disch := decide) only [hFlag, hVht, Bool.and_false, Bool.false_or, Nat.le_add_right,
    decide_true, Bool.true_and]

/-! ## Configurations that survive -/

theorem PmfMsg.decode_encode (c : PmfConfig) : PmfMsg.decode (some c.encode) = c := rfl

theorem ThresholdMsg.decode_encode (c : ScanThreshold b) :
    ThresholdMsg.decode b (some c.encode) = c := by
  simp [ThresholdMsg.decode, ScanThreshold.encode, getD_when]

theorem BssMaxIdleMsg.decode_encode (c : BssMaxIdleConfig) :
    BssMaxIdleMsg.decode (some c.encode) = c := by
  simp [BssMaxIdleMsg.decode, BssMaxIdleConfig.encode]

theorem sta_decode_encode (c : StaConfig b) : (copyWifiStaCfgToRpcStruct c).decode b =
    { c with
      ssid := takeBytes ssidLength ssidLength (copyStr c.ssid ssidLength)
      password := takeBytes passwordLength passwordLength (copyStr c.password passwordLength)
      bssid := if c.bssidSet then c.bssid else Vector.replicate bssidBytesSize 0
      saeH2eIdentifier := Vector.replicate saeH2eIdentifierLen 0 } := by
  obtain ⟨hRm, hBtm, hMbo, hFt, hOwe, hTransition⟩ := bitmask_flags c
  obtain ⟨hDcm, hMcs9, hSu, hTrigSu, hTrigMu, hCqi⟩ := heBitmask_flags c
  obtain ⟨hTx, hRx⟩ := heBitmask_dcm c
  have hVht := heBitmask_vht c
  simp only [StaMsg.decode, copyWifiStaCfgToRpcStruct, hRm, hBtm, hMbo, hFt, hOwe, hTransition,
    hDcm, hMcs9, hSu, hTrigSu, hTrigMu, hCqi, hTx, hRx, bitmask_reserved, heBitmask_reserved,
    takeBytes_copyBytes, takeBytes_nil, PmfMsg.decode_encode, ThresholdMsg.decode_encode,
    UInt8.toUInt8_toUInt32, UInt16.toUInt16_toUInt32]
  congr 1
  · exact funext fun h => (hVht h).1
  · exact funext fun h => (hVht h).2.1
  · exact funext fun h => (hVht h).2.2

theorem ap_decode_encode (c : ApConfig b) : c.encode.decode b =
    { c with
      ssid := if c.ssidLen = 0 then Vector.replicate ssidLength 0
        else takeBytes ssidLength ssidLength (copyStr c.ssid ssidLength)
      password :=
        takeBytes passwordLength passwordLength (copyStr c.password passwordLength) } := by
  have hIdle : (fun h : b.idf550 = true => BssMaxIdleMsg.decode
      (if h : b.idf550 = true then some (c.bssMaxIdleCfg h).encode else none)) =
      c.bssMaxIdleCfg := by
    funext h
    rw [dif_pos h, BssMaxIdleMsg.decode_encode]
  have hSsid : takeBytes ssidLength ssidLength
      (if c.ssidLen ≠ 0 then copyStr c.ssid ssidLength else []) =
      if c.ssidLen = 0 then Vector.replicate ssidLength 0
        else takeBytes ssidLength ssidLength (copyStr c.ssid ssidLength) := by
    by_cases hLen : c.ssidLen = 0
    · rw [if_neg (not_not.mpr hLen), if_pos hLen, takeBytes_nil]
    · rw [if_pos hLen, if_neg hLen]
  simp only [ApMsg.decode, ApConfig.encode, hSsid, hIdle, PmfMsg.decode_encode, getD_when,
    UInt8.toUInt8_toUInt32, UInt16.toUInt16_toUInt32]

/-- A configuration comes back from a message exactly if its texts end where their terminators
are and the fields that are not sent are zero. -/
theorem decode_encode_iff (b : Build) (c : Config b) :
    reqWifiSetConfig b (reqWifiGetConfig c) = c ↔ c.Survives := by
  cases c with
  | sta c =>
    have hBssid : (if c.bssidSet = true then c.bssid else Vector.replicate bssidBytesSize 0) =
        c.bssid ↔ (c.bssidSet = false → c.bssid = Vector.replicate bssidBytesSize 0) := by
      cases c.bssidSet <;> simp [eq_comm]
    rw [reqWifiGetConfig, reqWifiSetConfig, Config.sta.injEq, sta_decode_encode, Config.Survives,
      StaConfig.ext_iff]
    simp only [takeBytes_copyStr_iff, hBssid, true_and]
    rw [eq_comm (a := c.saeH2eIdentifier)]
  | ap c =>
    rw [reqWifiGetConfig, reqWifiSetConfig, Config.ap.injEq, ap_decode_encode, Config.Survives,
      ApConfig.ext_iff]
    by_cases hLen : c.ssidLen = 0
    · simp only [takeBytes_copyStr_iff, if_pos hLen, and_true]
      rw [and_comm, eq_comm (a := c.ssid)]
    · simp only [takeBytes_copyStr_iff, if_neg hLen, and_true]
      rw [and_comm]

/-- An access point whose SSID ends at its terminator, with the length 0 for that. -/
def terminatedAp (b : Build) : ApConfig b :=
  { ApMsg.decode b ⟨[], [], 0, 1, 0, 0, 4, 100, 0, false, none, 0, 3, 1, 0, 0, none, 0⟩ with
    ssid := takeBytes ssidLength ssidLength [0x61, 0x70] }

/-- Its SSID does not survive. -/
theorem ssid_lost : ∃ b c, reqWifiSetConfig b (reqWifiGetConfig c) ≠ c := by
  refine ⟨⟨true, true, true⟩, .ap (terminatedAp _), fun hSame => ?_⟩
  have hSsid := congrArg ApConfig.ssid (Config.ap.inj hSame)
  revert hSsid
  decide

end EspHosted.Wifi.ConfigCodec
