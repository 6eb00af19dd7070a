import EspHosted.Wifi.ConfigCodec

/-!
# The Wi-Fi configuration of the host and back

`rpc_wifi_set_config` sends a configuration of the host, the co-processor gives it to its driver,
and `rpc_wifi_get_config` asks for it. The configuration is copied by hand four times. The driver
returns what it was given, and messages arrive as they were sent.

* `roundTrip_sta`, `roundTrip_ap`: what comes back;
* `same_iff`: exactly when this is the configuration that was sent.
-/

namespace EspHosted.Wifi.ConfigRoundTrip

open ConfigCodec

/-! ## Configurations of the host -/

/-- `h_wifi_config_t.sta`. -/
structure HostSta where
  ssid : Vector UInt8 ssidLength
  ssidLen : UInt8
  password : Vector UInt8 passwordLength
  bssid : Vector UInt8 bssidBytesSize
  channel : UInt8
  listenInterval : UInt8
  pmfCfgCapable : UInt8
  pmfCfgRequired : UInt8

/-- `h_wifi_config_t.ap`. -/
structure HostAp where
  ssid : Vector UInt8 ssidLength
  ssidLen : UInt8
  password : Vector UInt8 passwordLength
  channel : UInt8
  hiddenSsid : UInt8
  maxConnection : UInt8
  beaconInterval : UInt16

/-- The part of `h_wifi_config_t` for the interface. -/
inductive HostConfig
  | sta (c : HostSta)
  | ap (c : HostAp)

/-! ## Sending -/

/-- `h_rpc_mac_is_set`. -/
def hRpcMacIsSet (mac : Vector UInt8 bssidBytesSize) : Bool := mac.toList.any (· ≠ 0)

/-- The request of `compose_rpc_req`. What it does not set is as `wifi_sta_config__init` and
`wifi_ap_config__init` leave it. -/
def composeRpcReq : HostConfig → Msg
  | .sta c => .sta
    { ssid := copyStr c.ssid ssidLength
      password := copyStr c.password passwordLength
      scanMethod := 0
      bssidSet := hRpcMacIsSet c.bssid
      bssid := if hRpcMacIsSet c.bssid then copyBytes c.bssid else []
      channel := c.channel.toUInt32
      listenInterval := c.listenInterval.toUInt32
      sortMethod := 0
      threshold := none
      pmfCfg := some ⟨c.pmfCfgCapable ≠ 0, c.pmfCfgRequired ≠ 0⟩
      bitmask := 0
      saePweH2e := 0
      failureRetryCnt := 0
      heBitmask := 0
      saeH2eIdentifier := []
      saePkMode := 0 }
  | .ap c => .ap
    { ssid := copyStr c.ssid ssidLength
      password := copyStr c.password passwordLength
      ssidLen := c.ssidLen.toUInt32
      channel := c.channel.toUInt32
      authmode := 0
      ssidHidden := c.hiddenSsid.toUInt32
      maxConnection := c.maxConnection.toUInt32
      beaconInterval := c.beaconInterval.toUInt32
      pairwiseCipher := 0
      ftmResponder := false
      pmfCfg := none
      saePweH2e := 0
      csaCount := 0
      dtimPeriod := 0
      transitionDisable := 0
      saeExt := 0
      bssMaxIdleCfg := none
      gtkRekeyInterval := 0 }

/-! ## Receiving -/

/-- `rpc_copy_wifi_sta_config`, whose result the caller does not look at. -/
def rpcCopyWifiStaConfig (m : StaMsg) : HostSta :=
  { ssid := takeBytes ssidLength ssidLength m.ssid
    ssidLen := UInt8.ofNat (min m.ssid.length ssidLength)
    password := takeBytes passwordLength passwordLength m.password
    bssid := takeBytes bssidBytesSize bssidBytesSize m.bssid
    channel := m.channel.toUInt8
    listenInterval := m.listenInterval.toUInt8
    pmfCfgCapable := if (m.pmfCfg.map (·.capable)).getD false then 1 else 0
    pmfCfgRequired := if (m.pmfCfg.map (·.required)).getD false then 1 else 0 }

/-- `RPC_RSP_COPY_BYTES` into a new array; the bytes must fit. -/
def rspCopyBytes (n : Nat) (src : List UInt8) : Option (Vector UInt8 n) :=
  if src.length ≤ n then some (takeBytes n n src) else none

/-- The configuration of a response in `rpc_parse_rsp`. -/
def rpcParseRsp : Msg → Option HostConfig
  | .sta m => some (.sta (rpcCopyWifiStaConfig m))
  | .ap m => do
    let ssid ← rspCopyBytes ssidLength m.ssid
    let password ← rspCopyBytes passwordLength m.password
    return .ap
      { ssid
        password
        ssidLen := m.ssidLen.toUInt8
        channel := m.channel.toUInt8
        hiddenSsid := m.ssidHidden.toUInt8
        maxConnection := m.maxConnection.toUInt8
        beaconInterval := m.beaconInterval.toUInt16 }

/-- `rpc_wifi_set_config` and then `rpc_wifi_get_config`. -/
def roundTrip (b : Build) (c : HostConfig) : Option HostConfig :=
  rpcParseRsp (reqWifiGetConfig (reqWifiSetConfig b (composeRpcReq c)))

/-! ## The same configuration -/

/-- The SSID of an access point ends at the terminator if its length is 0. -/
def HostAp.ssidBytes (c : HostAp) : List UInt8 :=
  if c.ssidLen = 0 then text c.ssid else c.ssid.toList.take c.ssidLen.toNat

def HostConfig.Same : HostConfig → HostConfig → Prop
  | .sta c, .sta r => r.ssidLen = c.ssidLen ∧
      r.ssid.toList.take r.ssidLen.toNat = c.ssid.toList.take c.ssidLen.toNat ∧
      text r.password = text c.password ∧ r.bssid = c.bssid ∧ r.channel = c.channel ∧
      r.listenInterval = c.listenInterval ∧ r.pmfCfgCapable = c.pmfCfgCapable ∧
      r.pmfCfgRequired = c.pmfCfgRequired
  | .ap c, .ap r => r.ssidLen = c.ssidLen ∧ r.ssidBytes = c.ssidBytes ∧
      text r.password = text c.password ∧ r.channel = c.channel ∧
      r.hiddenSsid = c.hiddenSsid ∧ r.maxConnection = c.maxConnection ∧
      r.beaconInterval = c.beaconInterval
  | _, _ => False

/-- The length of a station's SSID counts the terminator, as far as there is one, and the flags
are flags. An access point has no SSID if its length is 0, else only zeros are behind a terminator
within its SSID. -/
def HostConfig.Kept : HostConfig → Prop
  | .sta c => c.ssidLen.toNat = min ((text c.ssid).length + 1) ssidLength ∧
      c.pmfCfgCapable ≤ 1 ∧ c.pmfCfgRequired ≤ 1
  | .ap c => if c.ssidLen = 0 then text c.ssid = [] else
      ∀ x ∈ (c.ssid.toList.take c.ssidLen.toNat).dropWhile (· ≠ 0), x = 0

/-! ## Texts -/

section
variable {n : Nat} (v : Vector UInt8 n)

/-- An array of zeros into which the text of an array was copied. -/
def pad : Vector UInt8 n := takeBytes n n (copyStr v n)

theorem toList_pad : (pad v).toList =
    text v ++ List.replicate (n - (text v).length) 0 := takeBytes_copyStr v

theorem text_pad : text (pad v) = text v := by
  have hAll : ∀ x ∈ text v, decide (x ≠ 0) = true := List.all_eq_true.mp List.all_takeWhile
  rw [text, toList_pad, List.takeWhile_append_of_pos hAll]
  cases n - (text v).length with
  | zero => exact List.append_nil _
  | succ k => exact List.append_nil _

theorem pad_pad : pad (pad v) = pad v := by
  rw [← Vector.toList_inj, toList_pad, text_pad, ← toList_pad]

theorem length_copyStr (m : Nat) : (copyStr v m).length = min ((text v).length + 1) m := by
  rw [copyStr, List.length_take, List.length_append, List.length_singleton]
  omega

/-- Zeros in the place of what follows the first zero. -/
theorem take_zeros_iff (l : List UInt8) (k : Nat) :
    (l.takeWhile (· ≠ 0) ++ List.replicate (l.length - (l.takeWhile (· ≠ 0)).length) 0).take k =
      l.take k ↔ ∀ x ∈ (l.take k).dropWhile (· ≠ 0), x = 0 := by
  induction l generalizing k with
  | nil => simp
  | cons c l ih =>
    cases k with
    | zero => simp
    | succ k =>
      by_cases hc : c = 0
      · subst hc
        simp [List.eq_replicate_iff, eq_comm]
      · simpa [hc] using ih k

theorem take_pad_iff (v : Vector UInt8 n) (k : Nat) : (pad v).toList.take k = v.toList.take k ↔
    ∀ x ∈ (v.toList.take k).dropWhile (· ≠ 0), x = 0 := by
  have hZeros := take_zeros_iff v.toList k
  rwa [Vector.length_toList, ← text, ← toList_pad] at hZeros

/-- Nothing but the terminator follows a text. -/
theorem take_text_succ (l : List UInt8) :
    ∀ x ∈ (l.take ((l.takeWhile (· ≠ 0)).length + 1)).dropWhile (· ≠ 0), x = 0 := by
  induction l with
  | nil => simp
  | cons c l ih =>
    by_cases hc : c = 0
    · simp [hc]
    · simpa [hc] using ih

end

/-! ## What comes back -/

/-- The address of a station is sent if it is not zero, and is zero otherwise. -/
theorem eq_zero_of_not_set {mac : Vector UInt8 bssidBytesSize} (h : hRpcMacIsSet mac = false) :
    Vector.replicate bssidBytesSize 0 = mac := by
  refine Vector.ext fun i hi => ?_
  rw [hRpcMacIsSet, List.any_eq_false] at h
  have hZero := h mac[i] (Vector.mem_toList_iff.mpr (Vector.getElem_mem hi))
  rw [Vector.getElem_replicate]
  exact (of_not_not fun hNe => hZero (decide_eq_true hNe)).symm

/-- What the host reads of a configuration of the driver. -/
theorem rpcCopyWifiStaConfig_eq {b : Build} (s : StaConfig b) :
    rpcCopyWifiStaConfig (copyWifiStaCfgToRpcStruct s) =
      { ssid := pad s.ssid
        ssidLen := UInt8.ofNat (min ((text s.ssid).length + 1) ssidLength)
        password := pad s.password
        bssid := s.bssid
        channel := s.channel
        listenInterval := s.listenInterval.toUInt8
        pmfCfgCapable := if s.pmfCfg.capable then 1 else 0
        pmfCfgRequired := if s.pmfCfg.required then 1 else 0 } := by
  have hLength : min (copyStr s.ssid ssidLength).length ssidLength =
      min ((text s.ssid).length + 1) ssidLength := by
    rw [length_copyStr]
    omega
  have hListen : s.listenInterval.toUInt32.toUInt8 = s.listenInterval.toUInt8 := by simp
  rw [rpcCopyWifiStaConfig, copyWifiStaCfgToRpcStruct, ← pad, ← pad, hLength, takeBytes_copyBytes,
    UInt8.toUInt8_toUInt32, hListen]
  rfl

theorem roundTrip_sta (b : Build) (c : HostSta) : roundTrip b (.sta c) = some (.sta
    { c with
      ssid := pad c.ssid
      ssidLen := UInt8.ofNat (min ((text c.ssid).length + 1) ssidLength)
      password := pad c.password
      pmfCfgCapable := if decide (c.pmfCfgCapable ≠ 0) then 1 else 0
      pmfCfgRequired := if decide (c.pmfCfgRequired ≠ 0) then 1 else 0 }) := by
  have hBssid : (if hRpcMacIsSet c.bssid then takeBytes bssidBytesSize bssidBytesSize
      (if hRpcMacIsSet c.bssid then copyBytes c.bssid else []) else
      Vector.replicate bssidBytesSize 0) = c.bssid := by
    cases hSet : hRpcMacIsSet c.bssid with
    | true => exact takeBytes_copyBytes c.bssid
    | false => exact eq_zero_of_not_set hSet
  have hListen : c.listenInterval.toUInt32.toUInt16.toUInt8 = c.listenInterval := by simp
  rw [roundTrip, composeRpcReq, reqWifiSetConfig, reqWifiGetConfig, rpcParseRsp,
    rpcCopyWifiStaConfig_eq, StaMsg.decode, ← pad, ← pad, text_pad, pad_pad, pad_pad, hBssid,
    UInt8.toUInt8_toUInt32, hListen]
  rfl

theorem rspCopyBytes_copyStr {n : Nat} (v : Vector UInt8 n) :
    rspCopyBytes n (copyStr v n) = some (pad v) := by
  have hFits : (copyStr v n).length ≤ n := by
    rw [length_copyStr]
    omega
  rw [rspCopyBytes, if_pos hFits, pad]

theorem rpcParseRsp_ap {b : Build} (s : ApConfig b) : rpcParseRsp (.ap s.encode) = some (.ap
    { ssid := if s.ssidLen = 0 then Vector.replicate ssidLength 0 else pad s.ssid
      ssidLen := s.ssidLen
      password := pad s.password
      channel := s.channel
      hiddenSsid := s.ssidHidden
      maxConnection := s.maxConnection
      beaconInterval := s.beaconInterval }) := by
  have hSsid : rspCopyBytes ssidLength (if s.ssidLen ≠ 0 then copyStr s.ssid ssidLength else []) =
      some (if s.ssidLen = 0 then Vector.replicate ssidLength 0 else pad s.ssid) := by
    by_cases hLen : s.ssidLen = 0
    · rw [if_neg (not_not.mpr hLen), if_pos hLen, ← takeBytes_nil]
      rfl
    · rw [if_pos hLen, if_neg hLen, rspCopyBytes_copyStr]
  rw [rpcParseRsp, ApConfig.encode, hSsid, rspCopyBytes_copyStr, UInt8.toUInt8_toUInt32,
    UInt8.toUInt8_toUInt32, UInt8.toUInt8_toUInt32, UInt8.toUInt8_toUInt32,
    UInt16.toUInt16_toUInt32]
  rfl

theorem roundTrip_ap (b : Build) (c : HostAp) : roundTrip b (.ap c) = some (.ap
    { c with
      ssid := if c.ssidLen = 0 then Vector.replicate ssidLength 0 else pad c.ssid
      password := pad c.password }) := by
  rw [roundTrip, composeRpcReq, reqWifiSetConfig, reqWifiGetConfig, rpcParseRsp_ap, ApMsg.decode,
    ← pad, ← pad, pad_pad, pad_pad, UInt8.toUInt8_toUInt32, UInt8.toUInt8_toUInt32,
    UInt8.toUInt8_toUInt32, UInt8.toUInt8_toUInt32, UInt16.toUInt16_toUInt32]

/-! ## When it is the same -/

theorem flag_iff (x : UInt8) : (if decide (x ≠ 0) then 1 else 0 : UInt8) = x ↔ x ≤ 1 := by
  by_cases hZero : x = 0
  · subst hZero
    decide
  · rw [if_pos (decide_eq_true hZero)]
    rw [← UInt8.toNat_inj, UInt8.toNat_zero] at hZero
    rw [← UInt8.toNat_inj, UInt8.le_iff_toNat_le, UInt8.toNat_one]
    omega

/-- The bytes of an SSID whose length counts the terminator. -/
theorem take_ssid {v : Vector UInt8 ssidLength} {k : Nat}
    (hLen : k = min ((text v).length + 1) ssidLength) :
    (pad v).toList.take k = v.toList.take k := by
  have hTake : v.toList.take k = v.toList.take ((text v).length + 1) := by
    rw [hLen, ← List.take_take, List.take_of_length_le (Nat.le_of_eq Vector.length_toList)]
  rw [take_pad_iff, hTake]
  exact take_text_succ v.toList

/-- A configuration comes back as it was sent exactly if the host counts the terminator of a
station's SSID in its length, and gives an access point its SSID with a length. -/
theorem same_iff (b : Build) (c : HostConfig) :
    (∃ r, roundTrip b c = some r ∧ c.Same r) ↔ c.Kept := by
  cases c with
  | sta c =>
    have hLen : UInt8.ofNat (min ((text c.ssid).length + 1) ssidLength) = c.ssidLen ↔
        c.ssidLen.toNat = min ((text c.ssid).length + 1) ssidLength := by
      have hFits : min ((text c.ssid).length + 1) ssidLength < UInt8.size :=
        Nat.lt_of_le_of_lt (Nat.min_le_right _ _) (by decide)
      rw [← UInt8.toNat_inj, UInt8.toNat_ofNat_of_lt' hFits, eq_comm]
    rw [roundTrip_sta]
    simp only [Option.some.injEq, exists_eq_left', HostConfig.Same, HostConfig.Kept, text_pad,
      flag_iff, true_and]
    constructor
    · rintro ⟨hSame, -, hFlags⟩
      exact ⟨hLen.mp hSame, hFlags⟩
    · rintro ⟨hKept, hFlags⟩
      refine ⟨hLen.mpr hKept, ?_, hFlags⟩
      rw [hLen.mpr hKept, take_ssid hKept]
  | ap c =>
    rw [roundTrip_ap]
    simp only [Option.some.injEq, exists_eq_left', HostConfig.Same, HostConfig.Kept, text_pad,
      true_and, and_true, HostAp.ssidBytes]
    split
    · exact eq_comm
    · exact take_pad_iff c.ssid c.ssidLen.toNat

/-- The station configuration of a host that gives the length of its SSID as it is. -/
def plainSta : HostSta :=
  { ssid := takeBytes ssidLength ssidLength [0x61, 0x62, 0x63]
    ssidLen := 3
    password := Vector.replicate passwordLength 0
    bssid := Vector.replicate bssidBytesSize 0
    channel := 0
    listenInterval := 0
    pmfCfgCapable := 1
    pmfCfgRequired := 0 }

/-- The length that comes back counts the terminator. -/
theorem length_not_same : ∃ b c, ¬ ∃ r, roundTrip b c = some r ∧ c.Same r := by
  refine ⟨⟨true, true, true⟩, .sta plainSta, ?_⟩
  rintro ⟨r, hTrip, hSame⟩
  rw [roundTrip_sta, Option.some.injEq] at hTrip
  subst hTrip
  have hLen := hSame.1
  revert hLen
  decide

end EspHosted.Wifi.ConfigRoundTrip
