import EspHosted.Lib.Overlay
import EspHosted.Wifi.ConfigRoundTrip
import Mathlib.Data.List.GetD

/-!
# The type adapters of the ESP-IDF port

`h_wifi_adapt_…_to_native` fills a type of ESP-IDF from the portable one field by field, and
`h_wifi_adapt_…_to_host` the portable one from that of ESP-IDF. `wifi_config_t` is a union: its
station and access point parts lie over each other, and the adapter writes the second part over
the first.

* `adapted_ap`, `adapted_sta`: what comes back of a configuration;
* `adapters_iff`: for every type, exactly when a value comes back as it was.
-/

namespace EspHosted.Wifi.TypeAdapt

open Bytes Overlay
open Reads (Memory)
open ConfigCodec (ssidLength passwordLength bssidBytesSize text)
open ConfigRoundTrip (HostSta HostAp)

/-- What differs between versions and chips: where `pmf_cfg` of a station lies, and
`ESP_WIFI_MAX_CONN_NUM`. -/
structure Idf where
  pmfCfg : Nat
  pmfCfg_ge : 110 ≤ pmfCfg
  maxConnNum : Nat

/-! ## Configurations -/

/-- `h_wifi_config_t`. -/
structure HConfig where
  sta : HostSta
  ap : HostAp

/-! The offsets of the fields in the two parts of `wifi_config_t`. Both begin with `ssid` and
`password`. -/

def ssidAt : Nat := 0
def passwordAt : Nat := 32
def staBssidAt : Nat := 101
def staChannelAt : Nat := 107
def staListenIntervalAt : Nat := 108
def apSsidLenAt : Nat := 96
def apChannelAt : Nat := 97
def apSsidHiddenAt : Nat := 104
def apMaxConnectionAt : Nat := 105
def apBeaconIntervalAt : Nat := 106

/-- A `uint8_t` as a `bool`. -/
def flag (x : UInt8) : UInt8 := if x ≠ 0 then 1 else 0

def storeSta (idf : Idf) (m : Memory) (src : HostSta) : Memory :=
  let m := store m ssidAt src.ssid
  let m := store m passwordAt src.password
  let m := store m staBssidAt src.bssid
  let m := Function.update m staChannelAt src.channel
  let m := store16 m staListenIntervalAt src.listenInterval.toUInt16
  let m := Function.update m idf.pmfCfg (flag src.pmfCfgCapable)
  Function.update m (idf.pmfCfg + 1) (flag src.pmfCfgRequired)

def storeAp (m : Memory) (src : HostAp) : Memory :=
  let m := store m ssidAt src.ssid
  let m := store m passwordAt src.password
  let m := Function.update m apSsidLenAt src.ssidLen
  let m := Function.update m apChannelAt src.channel
  let m := Function.update m apSsidHiddenAt src.hiddenSsid
  let m := Function.update m apMaxConnectionAt src.maxConnection
  store16 m apBeaconIntervalAt src.beaconInterval

def loadSta (idf : Idf) (m : Memory) : HostSta where
  ssid := load m ssidAt ssidLength
  ssidLen := 0
  password := load m passwordAt passwordLength
  bssid := load m staBssidAt bssidBytesSize
  channel := m staChannelAt
  listenInterval := (load16 m staListenIntervalAt).toUInt8
  pmfCfgCapable := flag (m idf.pmfCfg)
  pmfCfgRequired := flag (m (idf.pmfCfg + 1))

def loadAp (m : Memory) : HostAp where
  ssid := load m ssidAt ssidLength
  ssidLen := m apSsidLenAt
  password := load m passwordAt passwordLength
  channel := m apChannelAt
  hiddenSsid := m apSsidHiddenAt
  maxConnection := m apMaxConnectionAt
  beaconInterval := load16 m apBeaconIntervalAt

/-- `h_wifi_adapt_config_to_native`. -/
def configToNative (idf : Idf) (src : HConfig) : Memory :=
  storeAp (storeSta idf (fun _ => 0) src.sta) src.ap

/-- `h_wifi_adapt_config_to_host`. -/
def configToHost (idf : Idf) (src : Memory) : HConfig := ⟨loadSta idf src, loadAp src⟩

/-- The `wifi_cfg` that `h_event_post_wifi_adapter` posts for `H_EVENT_WIFI_DPP_CFG_RECVD`. -/
def dppCfgRecvd (idf : Idf) (src : HConfig) : Memory := configToNative idf src

/-- A native configuration has the fields of a station. -/
structure CarriesSta (idf : Idf) (m : Memory) (src : HostSta) : Prop where
  ssid : load m ssidAt ssidLength = src.ssid
  password : load m passwordAt passwordLength = src.password
  bssid : load m staBssidAt bssidBytesSize = src.bssid
  channel : m staChannelAt = src.channel
  listenInterval : load16 m staListenIntervalAt = src.listenInterval.toUInt16
  pmfCfgCapable : m idf.pmfCfg = flag src.pmfCfgCapable
  pmfCfgRequired : m (idf.pmfCfg + 1) = flag src.pmfCfgRequired

/-- The access point part has what the station part has where they lie over each other. -/
structure Overlaid (src : HConfig) : Prop where
  ssid : src.ap.ssid = src.sta.ssid
  password : src.ap.password = src.sta.password
  hiddenSsid : src.ap.hiddenSsid = src.sta.bssid[3]
  maxConnection : src.ap.maxConnection = src.sta.bssid[4]
  beaconLow : lo src.ap.beaconInterval.toNat = src.sta.bssid[5]
  beaconHigh : hi src.ap.beaconInterval.toNat = src.sta.channel

section Config

variable {idf : Idf} {m : Memory} {a : Nat}

/-! What the access point part is stored over, and what it leaves alone. -/

theorem load_storeAp_ssid (src : HostAp) : load (storeAp m src) ssidAt ssidLength = src.ssid := by
  simp (disch := decide) only [storeAp, load_store16_of_outside, load_update_of_outside,
    load_store_of_disjoint, load_store]

theorem load_storeAp_password (src : HostAp) :
    load (storeAp m src) passwordAt passwordLength = src.password := by
  simp (disch := decide) only [storeAp, load_store16_of_outside, load_update_of_outside,
    load_store]

theorem storeAp_of_outside (src : HostAp) (h : (98 ≤ a ∧ a < 104) ∨ 108 ≤ a) :
    storeAp m src a = m a := by
  simp only [storeAp, ssidAt, passwordAt, apSsidLenAt, apChannelAt, apSsidHiddenAt,
    apMaxConnectionAt, apBeaconIntervalAt]
  have hSsid : ssidLength = 32 := rfl
  have hPassword : passwordLength = 64 := rfl
  rw [store16_of_outside _ (by omega), Function.update_of_ne (by omega),
    Function.update_of_ne (by omega), Function.update_of_ne (by omega),
    Function.update_of_ne (by omega), store_of_outside _ (by omega),
    store_of_outside _ (by omega)]

theorem storeAp_ssidHidden (src : HostAp) : storeAp m src apSsidHiddenAt = src.hiddenSsid := by
  simp only [storeAp]
  rw [store16_of_outside _ (by decide), Function.update_of_ne (by decide), Function.update_self]

theorem storeAp_maxConnection (src : HostAp) :
    storeAp m src apMaxConnectionAt = src.maxConnection := by
  simp only [storeAp]
  rw [store16_of_outside _ (by decide), Function.update_self]

theorem storeAp_beaconLow (src : HostAp) :
    storeAp m src apBeaconIntervalAt = lo src.beaconInterval.toNat := store16_low _

theorem storeAp_beaconHigh (src : HostAp) :
    storeAp m src (apBeaconIntervalAt + 1) = hi src.beaconInterval.toNat := store16_high _

theorem loadAp_storeAp (src : HostAp) : loadAp (storeAp m src) = src := by
  have hSsidLen : storeAp m src apSsidLenAt = src.ssidLen := by
    simp only [storeAp]
    rw [store16_of_outside _ (by decide), Function.update_of_ne (by decide),
      Function.update_of_ne (by decide), Function.update_of_ne (by decide), Function.update_self]
  have hChannel : storeAp m src apChannelAt = src.channel := by
    simp only [storeAp]
    rw [store16_of_outside _ (by decide), Function.update_of_ne (by decide),
      Function.update_of_ne (by decide), Function.update_self]
  have hBeacon : load16 (storeAp m src) apBeaconIntervalAt = src.beaconInterval :=
    load16_store16 _
  rw [loadAp, load_storeAp_ssid, load_storeAp_password, hSsidLen, hChannel, storeAp_ssidHidden,
    storeAp_maxConnection, hBeacon]

/-! What the station part stores where it is left alone. -/

theorem storeSta_bssid (src : HostSta) {i : Nat} (h : i < bssidBytesSize) :
    storeSta idf m src (staBssidAt + i) = src.bssid[i] := by
  have hPmf := idf.pmfCfg_ge
  have hSize : bssidBytesSize = 6 := rfl
  simp only [storeSta]
  rw [Function.update_of_ne (by unfold staBssidAt; omega),
    Function.update_of_ne (by unfold staBssidAt; omega),
    store16_of_outside _ (by unfold staBssidAt staListenIntervalAt; omega),
    Function.update_of_ne (by unfold staBssidAt staChannelAt; omega), store_inside _ h]

theorem storeSta_listenLow (src : HostSta) :
    storeSta idf m src staListenIntervalAt = lo src.listenInterval.toUInt16.toNat := by
  have hPmf := idf.pmfCfg_ge
  have hAt : staListenIntervalAt = 108 := rfl
  simp only [storeSta]
  rw [Function.update_of_ne (by omega), Function.update_of_ne (by omega), store16_low]

theorem storeSta_listenHigh (src : HostSta) :
    storeSta idf m src (staListenIntervalAt + 1) = hi src.listenInterval.toUInt16.toNat := by
  have hPmf := idf.pmfCfg_ge
  have hAt : staListenIntervalAt = 108 := rfl
  simp only [storeSta]
  rw [Function.update_of_ne (by omega), Function.update_of_ne (by omega), store16_high]

theorem storeSta_pmfCfgCapable (src : HostSta) :
    storeSta idf m src idf.pmfCfg = flag src.pmfCfgCapable := by
  simp only [storeSta]
  rw [Function.update_of_ne (by omega), Function.update_self]

theorem storeSta_pmfCfgRequired (src : HostSta) :
    storeSta idf m src (idf.pmfCfg + 1) = flag src.pmfCfgRequired := by
  simp only [storeSta, Function.update_self]

/-! The two together. -/

theorem configToNative_of_outside (src : HConfig) (h : (98 ≤ a ∧ a < 104) ∨ 108 ≤ a) :
    configToNative idf src a = storeSta idf (fun _ => 0) src.sta a :=
  storeAp_of_outside _ h

/-- A MAC address whose last three bytes are overwritten. -/
def overlayBssid (bssid : Vector UInt8 bssidBytesSize) (x y z : UInt8) :
    Vector UInt8 bssidBytesSize := #v[bssid[0], bssid[1], bssid[2], x, y, z]

theorem bssid_index {i : Nat} (h : i < bssidBytesSize) :
    i = 0 ∨ i = 1 ∨ i = 2 ∨ i = 3 ∨ i = 4 ∨ i = 5 := by
  have hSix : bssidBytesSize = 6 := rfl
  omega

/-- The station part as the access point part has left it. -/
def overlay (src : HConfig) : HostSta where
  ssid := src.ap.ssid
  ssidLen := 0
  password := src.ap.password
  bssid := overlayBssid src.sta.bssid src.ap.hiddenSsid src.ap.maxConnection
    (lo src.ap.beaconInterval.toNat)
  channel := hi src.ap.beaconInterval.toNat
  listenInterval := src.sta.listenInterval
  pmfCfgCapable := flag src.sta.pmfCfgCapable
  pmfCfgRequired := flag src.sta.pmfCfgRequired

theorem load_bssid (src : HConfig) :
    load (configToNative idf src) staBssidAt bssidBytesSize = (overlay src).bssid := by
  have hFirst : ∀ i (h : i < bssidBytesSize), i < 3 →
      configToNative idf src (staBssidAt + i) = src.sta.bssid[i] := fun i h hThree => by
    rw [configToNative_of_outside src (by unfold staBssidAt; omega), storeSta_bssid _ h]
  refine Vector.ext fun i hi => ?_
  rw [load, Vector.getElem_ofFn]
  rcases bssid_index hi with rfl | rfl | rfl | rfl | rfl | rfl
  · exact hFirst 0 hi (by decide)
  · exact hFirst 1 hi (by decide)
  · exact hFirst 2 hi (by decide)
  · exact storeAp_ssidHidden _
  · exact storeAp_maxConnection _
  · exact storeAp_beaconLow _

theorem load16_listenInterval (src : HConfig) :
    load16 (configToNative idf src) staListenIntervalAt = src.sta.listenInterval.toUInt16 := by
  rw [load16, configToNative_of_outside src (.inr (by decide)),
    configToNative_of_outside src (.inr (by decide)), storeSta_listenLow, storeSta_listenHigh,
    le16_lo_hi (UInt16.toNat_lt _), UInt16.ofNat_toNat]

theorem configToNative_pmf (src : HConfig) :
    configToNative idf src idf.pmfCfg = flag src.sta.pmfCfgCapable ∧
      configToNative idf src (idf.pmfCfg + 1) = flag src.sta.pmfCfgRequired := by
  have hPmf := idf.pmfCfg_ge
  rw [configToNative_of_outside src (.inr (by omega)), storeSta_pmfCfgCapable,
    configToNative_of_outside src (.inr (by omega)), storeSta_pmfCfgRequired]
  exact ⟨rfl, rfl⟩

theorem flag_flag (x : UInt8) : flag (flag x) = flag x := by
  unfold flag
  split <;> rfl

/-- The station part of a configuration is overwritten. -/
theorem adapted_sta (src : HConfig) :
    (configToHost idf (configToNative idf src)).sta = overlay src := by
  have hSsid : load (configToNative idf src) ssidAt ssidLength = src.ap.ssid :=
    load_storeAp_ssid _
  have hPassword : load (configToNative idf src) passwordAt passwordLength = src.ap.password :=
    load_storeAp_password _
  have hChannel : configToNative idf src staChannelAt = hi src.ap.beaconInterval.toNat :=
    storeAp_beaconHigh _
  rw [configToHost, loadSta, hSsid, hPassword, hChannel, load_bssid, load16_listenInterval,
    (configToNative_pmf src).1, (configToNative_pmf src).2, flag_flag, flag_flag,
    UInt8.toUInt8_toUInt16, overlay]

theorem adapted_ap (src : HConfig) : (configToHost idf (configToNative idf src)).ap = src.ap :=
  loadAp_storeAp src.ap

theorem flag_eq_iff (x : UInt8) : flag x = x ↔ x = 0 ∨ x = 1 := by
  unfold flag
  by_cases hZero : x = 0
  · simp [hZero]
  · rw [if_pos hZero, or_iff_right hZero]
    exact eq_comm

theorem overlayBssid_eq_iff {v : Vector UInt8 bssidBytesSize} {x y z : UInt8} :
    overlayBssid v x y z = v ↔ x = v[3] ∧ y = v[4] ∧ z = v[5] := by
  constructor
  · intro h
    refine ⟨?_, ?_, ?_⟩
    · exact congrArg (fun w : Vector UInt8 bssidBytesSize => w[3]) h
    · exact congrArg (fun w : Vector UInt8 bssidBytesSize => w[4]) h
    · exact congrArg (fun w : Vector UInt8 bssidBytesSize => w[5]) h
  · rintro ⟨rfl, rfl, rfl⟩
    refine Vector.ext fun i hi => ?_
    rcases bssid_index hi with rfl | rfl | rfl | rfl | rfl | rfl <;> rfl

/-- The fields of a station that has no length of its SSID, and flags of 0 or 1. -/
structure PlainSta (src : HostSta) : Prop where
  ssidLen : src.ssidLen = 0
  pmfCfgCapable : src.pmfCfgCapable = 0 ∨ src.pmfCfgCapable = 1
  pmfCfgRequired : src.pmfCfgRequired = 0 ∨ src.pmfCfgRequired = 1

theorem overlay_eq_iff (src : HConfig) :
    overlay src = src.sta ↔ Overlaid src ∧ PlainSta src.sta := by
  obtain ⟨⟨ssid, ssidLen, password, bssid, channel, listen, capable, required⟩, ap⟩ := src
  simp only [overlay, HostSta.mk.injEq]
  rw [overlayBssid_eq_iff, flag_eq_iff, flag_eq_iff]
  constructor
  · rintro ⟨hSsid, hLen, hPassword, ⟨hHidden, hMax, hLow⟩, hHigh, -, hCapable, hRequired⟩
    exact ⟨⟨hSsid, hPassword, hHidden, hMax, hLow, hHigh⟩, hLen.symm, hCapable, hRequired⟩
  · rintro ⟨⟨hSsid, hPassword, hHidden, hMax, hLow, hHigh⟩, hLen, hCapable, hRequired⟩
    exact ⟨hSsid, hLen.symm, hPassword, ⟨hHidden, hMax, hLow⟩, hHigh, trivial, hCapable, hRequired⟩

theorem carriesSta_iff (src : HConfig) :
    CarriesSta idf (dppCfgRecvd idf src) src.sta ↔ Overlaid src := by
  have hSsid : load (configToNative idf src) ssidAt ssidLength = src.ap.ssid :=
    load_storeAp_ssid _
  have hPassword : load (configToNative idf src) passwordAt passwordLength = src.ap.password :=
    load_storeAp_password _
  have hChannel : configToNative idf src staChannelAt = hi src.ap.beaconInterval.toNat :=
    storeAp_beaconHigh _
  constructor
  · rintro ⟨h1, h2, h3, h4, -, -, -⟩
    obtain ⟨hHidden, hMax, hLow⟩ := overlayBssid_eq_iff.mp ((load_bssid src).symm.trans h3)
    exact ⟨hSsid.symm.trans h1, hPassword.symm.trans h2, hHidden, hMax, hLow,
      hChannel.symm.trans h4⟩
  · rintro ⟨h1, h2, hHidden, hMax, hLow, h4⟩
    exact ⟨hSsid.trans h1, hPassword.trans h2,
      (load_bssid src).trans (overlayBssid_eq_iff.mpr ⟨hHidden, hMax, hLow⟩), hChannel.trans h4,
      load16_listenInterval src, (configToNative_pmf src).1, (configToNative_pmf src).2⟩

end Config

/-! ## Enumerations -/

/-- A `switch` from numbers to enumerators, with the case of each number below the length of the
table, and `default`. -/
def enumToNative {α : Type} (table : List α) (default : α) (v : UInt8) : α :=
  table.getD v.toNat default

/-- The `switch` back. -/
def enumToHost {α : Type} [DecidableEq α] (table : List α) (default : UInt8) (x : α) : UInt8 :=
  if x ∈ table then UInt8.ofNat (table.idxOf x) else default

/-- `wifi_auth_mode_t`; `other` are the enumerators that the adapters do not name. -/
inductive AuthMode
  | authOpen
  | wep
  | wpaPsk
  | wpa2Psk
  | wpaWpa2Psk
  | wpa2Enterprise
  | wpa3Psk
  | wpa2Wpa3Psk
  | wapiPsk
  | owe
  | wpa3Ent192
  | max
  | other (n : Nat)
  deriving DecidableEq

def authModes : List AuthMode :=
  [.authOpen, .wep, .wpaPsk, .wpa2Psk, .wpaWpa2Psk, .wpa2Enterprise, .wpa3Psk, .wpa2Wpa3Psk,
    .wapiPsk, .owe, .wpa3Ent192, .max]

/-- `h_wifi_adapt_auth_to_native`. -/
def authToNative : UInt8 → AuthMode := enumToNative authModes .authOpen

/-- `h_wifi_adapt_auth_to_host`. -/
def authToHost : AuthMode → UInt8 := enumToHost authModes 0

/-- `wifi_cipher_type_t`. -/
inductive CipherType
  | none
  | wep40
  | wep104
  | tkip
  | ccmp
  | tkipCcmp
  | aesCmac128
  | sms4
  | gcmp
  | gcmp256
  | aesGmac128
  | aesGmac256
  | unknown
  | other (n : Nat)
  deriving DecidableEq

def cipherTypes : List CipherType :=
  [.none, .wep40, .wep104, .tkip, .ccmp, .tkipCcmp, .aesCmac128, .sms4, .gcmp, .gcmp256,
    .aesGmac128, .aesGmac256, .unknown]

/-- `h_wifi_adapt_cipher_to_native`. -/
def cipherToNative : UInt8 → CipherType := enumToNative cipherTypes .unknown

/-- `h_wifi_adapt_cipher_to_host`. -/
def cipherToHost : CipherType → UInt8 := enumToHost cipherTypes 12

/-- Which numbers are found again. -/
theorem enumToHost_enumToNative_iff {α : Type} [DecidableEq α] {table : List α} {default : α}
    {back : UInt8} (hNodup : table.Nodup) (hMem : default ∈ table) (hShort : table.length ≤ 256)
    (v : UInt8) :
    enumToHost table back (enumToNative table default v) = v ↔ v.toNat < table.length := by
  have hIn : enumToNative table default v ∈ table := by
    unfold enumToNative
    by_cases hLt : v.toNat < table.length
    · rw [List.getD_eq_getElem _ _ hLt]
      exact List.getElem_mem hLt
    · rwa [List.getD_eq_default _ _ (Nat.not_lt.mp hLt)]
  have hIdx : table.idxOf (enumToNative table default v) < table.length :=
    List.idxOf_lt_length_iff.mpr hIn
  rw [enumToHost, if_pos hIn]
  constructor
  · intro h
    have hNat := congrArg UInt8.toNat h
    rw [UInt8.toNat_ofNat', Nat.mod_eq_of_lt (Nat.lt_of_lt_of_le hIdx hShort)] at hNat
    exact hNat ▸ hIdx
  · intro hLt
    rw [enumToNative, List.getD_eq_getElem _ _ hLt, hNodup.idxOf_getElem _ hLt,
      UInt8.ofNat_toNat]

theorem authToHost_authToNative_iff (v : UInt8) :
    authToHost (authToNative v) = v ↔ v.toNat < 12 :=
  enumToHost_enumToNative_iff (by decide) (by decide) (by decide) v

theorem cipherToHost_cipherToNative_iff (v : UInt8) :
    cipherToHost (cipherToNative v) = v ↔ v.toNat < 13 :=
  enumToHost_enumToNative_iff (by decide) (by decide) (by decide) v

/-! ## The other types -/

/-- `h_wifi_init_config_t`. -/
structure HInitConfig where
  featureCaps : UInt32
  staMgmtBuf : UInt32
  txBufNum : UInt16
  rxBufNum : UInt16
  staticRxBufNum : UInt8
  staticTxBufNum : UInt8
  cacheTxBufNum : UInt8
  csiEnable : UInt8
  ampduRxEnable : UInt8
  ampduTxEnable : UInt8
  nvsEnable : UInt8
  nanoEnable : UInt8
  magic : UInt32
  rxBaWinNum : UInt8
  txBaWinNum : UInt8
  rxBaWinNum11ax : UInt8
  txBaWinNum11ax : UInt8
  wifiTaskCoreId : Int32

/-- `wifi_init_config_t`, as far as it is read again. -/
structure InitConfig where
  staticRxBufNum : Int32
  dynamicRxBufNum : Int32
  staticTxBufNum : Int32
  dynamicTxBufNum : Int32
  cacheTxBufNum : Int32
  csiEnable : Int32
  ampduRxEnable : Int32
  ampduTxEnable : Int32
  nvsEnable : Int32
  nanoEnable : Int32
  rxBaWin : Int32
  wifiTaskCoreId : Int32
  mgmtSbufNum : Int32
  featureCaps : UInt64
  magic : Int32

/-- `h_wifi_adapt_init_config_to_native`. -/
def initConfigToNative (src : HInitConfig) : InitConfig where
  staticRxBufNum := src.staticRxBufNum.toUInt32.toInt32
  dynamicRxBufNum := src.rxBufNum.toUInt32.toInt32
  staticTxBufNum := src.staticTxBufNum.toUInt32.toInt32
  dynamicTxBufNum := src.txBufNum.toUInt32.toInt32
  cacheTxBufNum := src.cacheTxBufNum.toUInt32.toInt32
  csiEnable := src.csiEnable.toUInt32.toInt32
  ampduRxEnable := src.ampduRxEnable.toUInt32.toInt32
  ampduTxEnable := src.ampduTxEnable.toUInt32.toInt32
  nvsEnable := src.nvsEnable.toUInt32.toInt32
  nanoEnable := src.nanoEnable.toUInt32.toInt32
  rxBaWin := src.rxBaWinNum.toUInt32.toInt32
  wifiTaskCoreId := src.wifiTaskCoreId
  mgmtSbufNum := src.staMgmtBuf.toInt32
  featureCaps := src.featureCaps.toUInt64
  magic := src.magic.toInt32

/-- `h_wifi_adapt_init_config_to_host`. -/
def initConfigToHost (src : InitConfig) : HInitConfig where
  featureCaps := src.featureCaps.toUInt32
  staMgmtBuf := src.mgmtSbufNum.toUInt32
  txBufNum := src.dynamicTxBufNum.toUInt32.toUInt16
  rxBufNum := src.dynamicRxBufNum.toUInt32.toUInt16
  staticRxBufNum := src.staticRxBufNum.toUInt32.toUInt8
  staticTxBufNum := src.staticTxBufNum.toUInt32.toUInt8
  cacheTxBufNum := src.cacheTxBufNum.toUInt32.toUInt8
  csiEnable := src.csiEnable.toUInt32.toUInt8
  ampduRxEnable := src.ampduRxEnable.toUInt32.toUInt8
  ampduTxEnable := src.ampduTxEnable.toUInt32.toUInt8
  nvsEnable := src.nvsEnable.toUInt32.toUInt8
  nanoEnable := src.nanoEnable.toUInt32.toUInt8
  magic := src.magic.toUInt32
  rxBaWinNum := src.rxBaWin.toUInt32.toUInt8
  txBaWinNum := 0
  rxBaWinNum11ax := 0
  txBaWinNum11ax := 0
  wifiTaskCoreId := src.wifiTaskCoreId

/-- The fields that ESP-IDF does not have are 0. -/
structure HInitConfig.Fits (c : HInitConfig) : Prop where
  txBaWinNum : c.txBaWinNum = 0
  rxBaWinNum11ax : c.rxBaWinNum11ax = 0
  txBaWinNum11ax : c.txBaWinNum11ax = 0

theorem initConfig_iff (c : HInitConfig) :
    initConfigToHost (initConfigToNative c) = c ↔ c.Fits := by
  constructor
  · intro h
    rw [← h]
    exact ⟨rfl, rfl, rfl⟩
  · rintro ⟨hTx, hRxAx, hTxAx⟩
    cases c
    simp only [initConfigToHost, initConfigToNative, UInt32.toUInt32_toInt32,
      UInt8.toUInt8_toUInt32, UInt16.toUInt16_toUInt32, UInt32.toUInt32_toUInt64] at *
    rw [hTx, hRxAx, hTxAx]

/-- `h_wifi_scan_config_t`. -/
structure HScanConfig where
  bssid : Nat
  ssid : Nat
  ssidLen : UInt8
  channel : UInt8
  showHidden : Bool
  activeScanMinTime : UInt16
  activeScanMaxTime : UInt16
  passiveScanTime : UInt16
  homeChanDwellTime : UInt8

/-- `wifi_scan_config_t`, as far as it is read again. -/
structure ScanConfig where
  bssid : Nat
  ssid : Nat
  channel : UInt8
  showHidden : Bool
  activeMin : UInt32
  activeMax : UInt32
  passive : UInt32
  homeChanDwellTime : UInt8

/-- `h_wifi_adapt_scan_config_to_native`. -/
def scanConfigToNative (src : HScanConfig) : ScanConfig where
  bssid := src.bssid
  ssid := src.ssid
  channel := src.channel
  showHidden := src.showHidden
  activeMin := src.activeScanMinTime.toUInt32
  activeMax := src.activeScanMaxTime.toUInt32
  passive := src.passiveScanTime.toUInt32
  homeChanDwellTime := src.homeChanDwellTime

/-- `h_wifi_adapt_scan_config_to_host`. -/
def scanConfigToHost (src : ScanConfig) : HScanConfig where
  bssid := src.bssid
  ssid := src.ssid
  ssidLen := 0
  channel := src.channel
  showHidden := src.showHidden
  activeScanMinTime := src.activeMin.toUInt16
  activeScanMaxTime := src.activeMax.toUInt16
  passiveScanTime := src.passive.toUInt16
  homeChanDwellTime := src.homeChanDwellTime

theorem scanConfig_iff (c : HScanConfig) :
    scanConfigToHost (scanConfigToNative c) = c ↔ c.ssidLen = 0 := by
  constructor
  · intro h
    rw [← h]
    rfl
  · intro hLen
    cases c
    simp only [scanConfigToHost, scanConfigToNative, UInt16.toUInt16_toUInt32] at *
    rw [hLen]

/-- `h_wifi_country_t`. -/
structure HCountry where
  cc : Vector UInt8 3
  schan : UInt8
  nchan : UInt8
  maxTxPower : UInt8
  policy : UInt8

/-- `wifi_country_t`. -/
structure Country where
  cc : Vector UInt8 3
  schan : UInt8
  nchan : UInt8
  maxTxPower : Int8
  policy : UInt32

/-- `h_wifi_adapt_country_to_native`. -/
def countryToNative (src : HCountry) : Country :=
  ⟨src.cc, src.schan, src.nchan, src.maxTxPower.toInt8, src.policy.toUInt32⟩

/-- `h_wifi_adapt_country_to_host`. -/
def countryToHost (src : Country) : HCountry :=
  ⟨src.cc, src.schan, src.nchan, src.maxTxPower.toUInt8, src.policy.toUInt8⟩

theorem country_eq (c : HCountry) : countryToHost (countryToNative c) = c := by
  cases c
  simp only [countryToHost, countryToNative, UInt8.toUInt8_toInt8, UInt8.toUInt8_toUInt32]

/-- `h_wifi_ap_record_t`. -/
structure HApRecord where
  bssid : Vector UInt8 6
  ssid : Vector UInt8 ssidLength
  ssidLen : UInt8
  primaryChannel : UInt8
  secondChannel : UInt8
  rssi : Int8
  authmode : UInt8
  pairwiseCipher : UInt8
  groupCipher : UInt8
  beaconInterval : UInt16
  country : Vector UInt8 3
  countryLen : UInt8
  phy11b : Bool
  phy11g : Bool
  phy11n : Bool
  phyLr : Bool
  wps : Bool
  reserved : BitVec 3

/-- `wifi_ap_record_t`, as far as it is read again. -/
structure ApRecord where
  bssid : Vector UInt8 6
  ssid : Vector UInt8 (ssidLength + 1)
  primary : UInt8
  second : UInt32
  rssi : Int8
  authmode : AuthMode
  pairwiseCipher : CipherType
  groupCipher : CipherType
  countryCc : Vector UInt8 3
  phy11b : Bool
  phy11g : Bool
  phy11n : Bool
  phyLr : Bool
  wps : Bool

/-- `h_wifi_adapt_ap_record_to_native`. The native SSID has one byte more, which stays 0. -/
def apRecordToNative (src : HApRecord) : ApRecord where
  bssid := src.bssid
  ssid := src.ssid.push 0
  primary := src.primaryChannel
  second := src.secondChannel.toUInt32
  rssi := src.rssi
  authmode := authToNative src.authmode
  pairwiseCipher := cipherToNative src.pairwiseCipher
  groupCipher := cipherToNative src.groupCipher
  countryCc := src.country
  phy11b := src.phy11b
  phy11g := src.phy11g
  phy11n := src.phy11n
  phyLr := src.phyLr
  wps := src.wps

/-- `h_wifi_adapt_ap_record_to_host`, with `strnlen` over all bytes of the SSID but the last. -/
def apRecordToHost (src : ApRecord) : HApRecord where
  bssid := src.bssid
  ssid := src.ssid.pop
  ssidLen := UInt8.ofNat (text src.ssid.pop).length
  primaryChannel := src.primary
  secondChannel := src.second.toUInt8
  rssi := src.rssi
  authmode := authToHost src.authmode
  pairwiseCipher := cipherToHost src.pairwiseCipher
  groupCipher := cipherToHost src.groupCipher
  beaconInterval := 0
  country := src.countryCc
  countryLen := 2
  phy11b := src.phy11b
  phy11g := src.phy11g
  phy11n := src.phy11n
  phyLr := src.phyLr
  wps := src.wps
  reserved := 0

/-- The length is that of the SSID, the country has two letters, the enumerators are known, and
what the native record has no field for is 0. -/
structure HApRecord.Fits (r : HApRecord) : Prop where
  ssidLen : r.ssidLen = UInt8.ofNat (text r.ssid).length
  authmode : r.authmode.toNat < 12
  pairwiseCipher : r.pairwiseCipher.toNat < 13
  groupCipher : r.groupCipher.toNat < 13
  beaconInterval : r.beaconInterval = 0
  countryLen : r.countryLen = 2
  reserved : r.reserved = 0

theorem apRecord_iff (r : HApRecord) : apRecordToHost (apRecordToNative r) = r ↔ r.Fits := by
  obtain ⟨bssid, ssid, ssidLen, primary, second, rssi, auth, pairwise, group, beacon, country,
    countryLen, b, g, n, lr, wps, reserved⟩ := r
  have hPop : (ssid.push 0).pop = ssid := Vector.pop_push ..
  simp only [apRecordToHost, apRecordToNative, HApRecord.mk.injEq, hPop,
    UInt8.toUInt8_toUInt32, authToHost_authToNative_iff, cipherToHost_cipherToNative_iff,
    true_and]
  constructor
  · rintro ⟨hLen, hAuth, hPairwise, hGroup, hBeacon, hCountry, hReserved⟩
    exact ⟨hLen.symm, hAuth, hPairwise, hGroup, hBeacon.symm, hCountry.symm, hReserved.symm⟩
  · rintro ⟨hLen, hAuth, hPairwise, hGroup, hBeacon, hCountry, hReserved⟩
    exact ⟨hLen.symm, hAuth, hPairwise, hGroup, hBeacon.symm, hCountry.symm, hReserved.symm⟩

/-- An element of `sta`, as far as both lists have it. -/
structure StaInfo where
  mac : Vector UInt8 6
  rssi : Int8
  deriving DecidableEq

def StaInfo.zero : StaInfo := ⟨Vector.replicate 6 0, 0⟩

def hStaMax : Nat := 10

/-- `h_wifi_sta_list_t`. -/
structure HStaList where
  sta : Vector StaInfo hStaMax
  num : UInt8

/-- `wifi_sta_list_t`. -/
structure StaList (idf : Idf) where
  sta : Vector StaInfo idf.maxConnNum
  num : Int32

/-- The loop over the first `n` elements, into a list of zeros. -/
def copySta {srcCap : Nat} (n dstCap : Nat) (src : Vector StaInfo srcCap) : Vector StaInfo dstCap :=
  Vector.ofFn fun i => if i.val < n then src[i.val]?.getD .zero else .zero

/-- `h_wifi_adapt_sta_list_to_native`. -/
def staListToNative (idf : Idf) (src : HStaList) : StaList idf :=
  let n := min (min src.num.toNat hStaMax) idf.maxConnNum
  ⟨copySta n idf.maxConnNum src.sta, (UInt32.ofNat n).toInt32⟩

/-- `h_wifi_adapt_sta_list_to_host`; `size_t` has 32 bits. -/
def staListToHost (idf : Idf) (src : StaList idf) : HStaList :=
  let n := min (min src.num.toUInt32.toNat idf.maxConnNum) hStaMax
  ⟨copySta n hStaMax src.sta, UInt8.ofNat n⟩

/-- The list holds so many stations, and the other elements are 0. -/
structure HStaList.Fits (idf : Idf) (l : HStaList) : Prop where
  num : l.num.toNat ≤ min hStaMax idf.maxConnNum
  rest : ∀ i (h : i < hStaMax), l.num.toNat ≤ i → l.sta[i] = .zero

theorem copySta_copySta {srcCap n cap : Nat} (hCap : n ≤ cap) (dstCap : Nat)
    (src : Vector StaInfo srcCap) :
    copySta n dstCap (copySta n cap src) = copySta n dstCap src := by
  refine Vector.ext fun i hi => ?_
  simp only [copySta, Vector.getElem_ofFn]
  by_cases hLt : i < n
  · rw [if_pos hLt, if_pos hLt, Vector.getElem?_eq_getElem (Nat.lt_of_lt_of_le hLt hCap),
      Vector.getElem_ofFn, if_pos hLt, Option.getD_some]
  · rw [if_neg hLt, if_neg hLt]

theorem staList_eq (idf : Idf) (l : HStaList) : staListToHost idf (staListToNative idf l) =
    ⟨copySta (min (min l.num.toNat hStaMax) idf.maxConnNum) hStaMax l.sta,
      UInt8.ofNat (min (min l.num.toNat hStaMax) idf.maxConnNum)⟩ := by
  have hTen : hStaMax = 10 := rfl
  have hNum : min (min (UInt32.ofNat (min (min l.num.toNat hStaMax) idf.maxConnNum)).toNat
      idf.maxConnNum) hStaMax = min (min l.num.toNat hStaMax) idf.maxConnNum := by
    rw [UInt32.toNat_ofNat', Nat.mod_eq_of_lt (by omega)]
    omega
  simp only [staListToHost, staListToNative, UInt32.toUInt32_toInt32, hNum]
  rw [copySta_copySta (Nat.min_le_right _ _)]

theorem staList_iff (idf : Idf) (l : HStaList) :
    staListToHost idf (staListToNative idf l) = l ↔ l.Fits idf := by
  rw [staList_eq]
  obtain ⟨sta, num⟩ := l
  rw [HStaList.mk.injEq]
  have hTen : hStaMax = 10 := rfl
  have hNum : UInt8.ofNat (min (min num.toNat hStaMax) idf.maxConnNum) = num ↔
      num.toNat ≤ min hStaMax idf.maxConnNum := by
    rw [← UInt8.toNat_inj, UInt8.toNat_ofNat', Nat.mod_eq_of_lt (by omega)]
    omega
  rw [hNum]
  constructor
  · rintro ⟨hSta, hFits⟩
    refine ⟨hFits, fun i h hLe => ?_⟩
    have hElement := congrArg (fun v : Vector StaInfo hStaMax => v[i]) hSta
    have hBehind : num.toNat ≤ i := hLe
    simp only [copySta, Vector.getElem_ofFn] at hElement
    rw [if_neg (by omega)] at hElement
    exact hElement.symm
  · rintro ⟨hFits, hRest⟩
    simp only at hFits hRest
    refine ⟨Vector.ext fun i hi => ?_, hFits⟩
    rw [copySta, Vector.getElem_ofFn]
    by_cases hLt : i < num.toNat
    · rw [if_pos (by simp only; omega)]
      simp [hi]
    · rw [if_neg (by simp only; omega), hRest i hi (Nat.not_lt.mp hLt)]

/-! ## All types -/

/-- What the adapters are called with. -/
inductive Value
  | station (c : HConfig)
  | accessPoint (c : HConfig)
  | initConfig (c : HInitConfig)
  | scanConfig (c : HScanConfig)
  | apRecord (r : HApRecord)
  | staList (l : HStaList)
  | country (c : HCountry)
  | dppCfgRecvd (c : HConfig)

/-- The value comes back as it was, or of a configuration the part in use; the event has the fields
of the station. -/
def Preserved (idf : Idf) : Value → Prop
  | .station c => (configToHost idf (configToNative idf c)).sta = c.sta
  | .accessPoint c => (configToHost idf (configToNative idf c)).ap = c.ap
  | .initConfig c => initConfigToHost (initConfigToNative c) = c
  | .scanConfig c => scanConfigToHost (scanConfigToNative c) = c
  | .apRecord r => apRecordToHost (apRecordToNative r) = r
  | .staList l => staListToHost idf (staListToNative idf l) = l
  | .country c => countryToHost (countryToNative c) = c
  | .dppCfgRecvd c => CarriesSta idf (dppCfgRecvd idf c) c.sta

/-- The condition of each type. -/
def Fits (idf : Idf) : Value → Prop
  | .station c => Overlaid c ∧ PlainSta c.sta
  | .accessPoint _ | .country _ => True
  | .initConfig c => c.Fits
  | .scanConfig c => c.ssidLen = 0
  | .apRecord r => r.Fits
  | .staList l => l.Fits idf
  | .dppCfgRecvd c => Overlaid c

/-- Exactly when a value is preserved. -/
theorem adapters_iff (idf : Idf) (v : Value) : Preserved idf v ↔ Fits idf v := by
  cases v with
  | station c =>
    rw [Preserved, adapted_sta]
    exact overlay_eq_iff c
  | accessPoint c => exact iff_of_true (adapted_ap c) trivial
  | initConfig c => exact initConfig_iff c
  | scanConfig c => exact scanConfig_iff c
  | apRecord r => exact apRecord_iff r
  | staList l => exact staList_iff idf l
  | country c => exact iff_of_true (country_eq c) trivial
  | dppCfgRecvd c => exact carriesSta_iff c

/-- A station on channel 6, and no access point. -/
def stationOnly : HConfig :=
  ⟨⟨Vector.replicate 32 97, 0, Vector.replicate 64 0, #v[2, 0, 0, 1, 2, 3], 6, 3, 1, 0⟩,
    ⟨Vector.replicate 32 0, 0, Vector.replicate 64 0, 0, 0, 0, 0⟩⟩

/-- Neither its SSID nor its channel comes back, nor do they arrive with an event. -/
theorem station_overwritten :
    ¬ Preserved ⟨124, by decide, 10⟩ (.station stationOnly) ∧
      ¬ Preserved ⟨124, by decide, 10⟩ (.dppCfgRecvd stationOnly) := by
  have hNot : ¬ Overlaid stationOnly := fun h => absurd h.beaconHigh (by decide)
  refine ⟨fun h => ?_, fun h => hNot ((carriesSta_iff _).mp h)⟩
  rw [Preserved, adapted_sta] at h
  exact hNot ((overlay_eq_iff _).mp h).1

end EspHosted.Wifi.TypeAdapt
