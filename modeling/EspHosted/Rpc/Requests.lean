import EspHosted.Lib.CInt
import EspHosted.Wifi.ConfigRoundTrip
import EspHosted.Wifi.ItwtCodec
import Mathlib.Data.List.Forall2

/-!
# Arguments of requests

A wrapper `rpc_*` of the host copies its arguments into `ctrl_cmd_t`, `compose_rpc_req` copies
them into a message, and a handler of the co-processor copies them out of it for a call of the
driver. The three structures are written by hand.

A request is given by the way of each of its arguments. Requests whose arguments are structures
that may be absent, or that several calls share, are modelled one by one. A driver function stands
under the name of the wrapper for it. Optional parts are compiled in, messages arrive as they were
sent, and memory is never short.
-/

namespace EspHosted.Rpc.Requests

open CInt Wifi Wifi.ConfigCodec Wifi.ConfigRoundTrip

/-! ## Values -/

abbrev u8 : CType := .uint 8
abbrev u16 : CType := .uint 16
abbrev u32 : CType := .uint 32
abbrev u64 : CType := .uint 64
abbrev i8 : CType := .int 8
abbrev i32 : CType := .int 32

/-- An enumeration without negative enumerators. -/
abbrev enum : CType := .uint 32

inductive Val
  | int (n : Int)
  /-- Bytes whose number both sides know. -/
  | array (bytes : Option (List UInt8))
  /-- A pointer and a length. -/
  | sized (bytes : Option (List UInt8)) (len : Int)
  /-- A text, without its terminator. -/
  | text (chars : Option (List UInt8))
  deriving DecidableEq

/-- The text at an address, if there is a terminator in the bytes that are there. -/
def cString (mem : List UInt8) : Option (List UInt8) :=
  if 0 ∈ mem then some (mem.takeWhile (· ≠ 0)) else none

/-- A text with its terminator. -/
def terminated (s : List UInt8) : List UInt8 := s ++ [0]

/-! ## The host and the co-processor -/

/-- What decides, besides the request, whether and with what the driver is called. -/
structure Env where
  /-- `restart_after_slave_ota` of the host. -/
  restarting : Bool
  /-- `H_GOT_TWT_ENABLE_KEEP_ALIVE`. -/
  twtKeepAlive : Bool
  /-- `H_WIFI_NVS_ENABLED` of the host. -/
  nvsEnabled : Bool
  /-- The station has a configuration with an SSID and is not connected. -/
  canConnect : Bool
  /-- `station_connecting`. -/
  stationConnecting : Bool
  /-- `__wrap_esp_wifi_init` does not call the driver: it is initialized, and not with another
  configuration. -/
  initialized : Bool
  /-- The image passes the checks that are made before the first write. -/
  imageValid : Bool
  /-- The driver has found access points. -/
  apFound : Bool
  /-- `CONFIG_ESP_HOSTED_NETWORK_SPLIT_ENABLED`. -/
  networkSplit : Bool
  /-- `esp_mac_addr_len_get`. -/
  macAddrLen : Int → Nat
  /-- `WIFI_ENABLE_CACHE_TX_BUFFER`. -/
  cacheTxBuffer : Bool
  /-- `WIFI_CACHE_TX_BUFFER_NUM`. -/
  cacheTxBufferNum : Int
  /-- `WIFI_FEATURE_CAPS`. -/
  featureCaps : Int

/-! ## Ways of an argument -/

/-- `h_wifi_adapt_ps_to_native`. -/
def psToNative (n : Int) : Int := if n = 1 then 1 else if n = 2 then 2 else 0

/-- `h_wifi_adapt_bw_to_native`. -/
def bwToNative (n : Int) : Int := if n = 2 then 2 else 1

/-- The way of an argument: the type of the parameter, of the fields it is copied to, and of the
driver's parameter. -/
inductive Field
  | int (type : CType) (hops : List CType) (native : CType)
  /-- A parameter that the wrapper does not copy. -/
  | unset (native : CType)
  | ps
  | bandwidth
  /-- `twt_enable_keep_alive`. -/
  | keepAlive
  /-- An enumeration that is mapped, from 0 up to a greatest enumerator; 0 else. -/
  | mapped (greatest : Int)
  /-- An array of `n` bytes. -/
  | array (n : Nat)
  /-- A pointer to `n` bytes, or `NULL`. -/
  | optArray (n : Nat)
  /-- A pointer and a length of the type, not `NULL` and not 0. -/
  | sized (len : CType)
  /-- A pointer and a length: not 0 if there is a pointer, not positive else. -/
  | optSized (len : CType)
  | text
  | optText
  /-- The country code of `esp_wifi_set_country_code`. -/
  | countryCode

/-- The arguments that the wrapper takes. -/
def Field.Accepts : Field → Val → Prop
  | .int t _ _, .int n => t.Holds n
  | .unset _, .int n | .bandwidth, .int n | .mapped _, .int n => enum.Holds n
  | .ps, .int n => 0 ≤ n ∧ n ≤ 2
  | .keepAlive, .int n => CType.bool.Holds n
  | .array k, .array (some bytes) | .optArray k, .array (some bytes) => bytes.length = k
  | .optArray _, .array none => True
  | .sized t, .sized (some bytes) len | .optSized t, .sized (some bytes) len =>
    t.Holds len ∧ 0 < len ∧ len = bytes.length
  | .optSized t, .sized none len => t.Holds len ∧ len ≤ 0
  | .text, .text (some s) | .optText, .text (some s) | .countryCode, .text (some s) => 0 ∉ s
  | .optText, .text none => True
  | _, _ => False

/-- What the driver gets in a direct call. -/
def Field.direct : Field → Val → Val
  | .int _ _ t, .int n | .unset t, .int n => .int (t.convert n)
  | .ps, .int n => .int (psToNative n)
  | .bandwidth, .int n => .int (bwToNative n)
  | _, v => v

/-- `RPC_REQ_COPY_BYTES` of the host. -/
def reqCopyBytes (src : Option (List UInt8)) (size : Nat) : Option (List UInt8) :=
  if size = 0 then none else src.map (List.take size)

/-- What the handler hands to the driver. -/
def Field.delivered (env : Env) : Field → Val → Val
  | .int _ hops t, .int n => .int (arrives t hops n)
  | .unset _, .int _ => .int 0
  | .ps, .int n => .int (arrives enum [u8, i32, i32] (psToNative n))
  | .bandwidth, .int n => .int (arrives enum [u8, enum, i32] (bwToNative n))
  | .keepAlive, .int n => .int (if env.twtKeepAlive then arrives .bool [.bool, .bool] n else 0)
  | .mapped k, .int n => .int (if 0 ≤ n ∧ n ≤ k then n else 0)
  | .array k, .array bytes | .optArray k, .array bytes => .array (reqCopyBytes bytes k)
  | .sized t, .sized bytes len | .optSized t, .sized bytes len =>
    .sized (reqCopyBytes bytes len.toNat) (arrives t [t, t] len)
  | .text, .text s | .optText, .text s => .text (s.bind fun s => cString (terminated s))
  -- three bytes are sent, and two of them put before a terminator
  | .countryCode, .text s =>
    .text (s.bind fun s => cString (terminated (((terminated s).take 3).take 2)))
  | _, v => v

/-! ## Wrappers -/

/-- The wrappers whose requests are given by the ways of their arguments. One that fixes its
arguments (`rpc_set_wifi_mode_station`, `rpc_disable_heartbeat`) or has the request of another
(`rpc_get_cp_info`) is not listed again. -/
inductive Wrapper
  | setWifiMode | getWifiMode | wifiGetMac | wifiSetMac
  | otaBegin | otaWrite | otaEnd | otaActivate
  | getCoprocessorFwversion | ifaceGetCoprocessorAppDesc
  | wifiSetMaxTxPower | wifiGetMaxTxPower
  | wifiStaGetNegotiatedPhymode | wifiStaGetAid | wifiStaGetRssi | wifiStaGetApInfo
  | wifiSetInactiveTime | wifiGetInactiveTime
  | wifiStaTwtConfig | wifiStaItwtTeardown | wifiStaItwtSuspend | wifiStaItwtGetFlowIdStatus
  | wifiStaItwtSendProbeReq | wifiStaItwtSetTargetWakeTimeOffset
  | wifiSetBand | wifiGetBand | wifiSetBandMode | wifiGetBandMode
  | wifiSetProtocols | wifiGetProtocols | wifiSetBandwidths | wifiGetBandwidths
  | ifaceConfigureHeartbeat
  | wifiDeinit | wifiStart | wifiStop | wifiConnect | wifiDisconnect
  | wifiGetConfig | wifiGetScanParameters | wifiScanStop
  | wifiScanGetApNum | wifiScanGetApRecord | wifiScanGetApRecords | wifiClearApList
  | wifiRestore | wifiClearFastConnect | wifiDeauthSta
  | wifiSetPs | wifiGetPs | wifiSetStorage | wifiSetBandwidth | wifiGetBandwidth
  | wifiSetChannel | wifiGetChannel
  | wifiSetCountryCode | wifiGetCountryCode | wifiSetCountry | wifiGetCountry
  | wifiApGetStaList | wifiApGetStaAid | wifiSetProtocol | wifiGetProtocol
  | wifiStaEnterpriseEnable | wifiStaEnterpriseDisable
  | eapClientSetIdentity | eapClientClearIdentity
  | eapClientSetUsername | eapClientClearUsername
  | eapClientSetPassword | eapClientClearPassword
  | eapClientSetNewPassword | eapClientClearNewPassword
  | eapClientSetCaCert | eapClientClearCaCert
  | eapClientSetCertificateAndKey | eapClientClearCertificateAndKey
  | eapClientSetDisableTimeCheck | eapClientGetDisableTimeCheck
  | eapClientSetTtlsPhase2Method | eapClientSetSuiteb192bitCertification
  | eapClientSetPacFile | eapClientSetFastParams | eapClientUseDefaultCertBundle
  | wifiSetOkcSupport | eapClientSetDomainName | eapClientSetEapMethods
  | suppDppInit | suppDppDeinit | suppDppBootstrapGen | suppDppStartListen | suppDppStopListen
  | ifaceMacAddrLenGet | ifaceSetMemMonitor
  | btControllerInit | btControllerDeinit | btControllerEnable | btControllerDisable
  deriving DecidableEq

/-- The ways of the arguments. -/
def Wrapper.fields : Wrapper → List Field
  | .setWifiMode | .wifiGetMac => [.int enum [i32, i32] enum]
  | .wifiSetMac => [.int enum [i32, i32] enum, .array 6]
  | .otaWrite => [.sized u32]
  | .wifiSetMaxTxPower => [.int i8 [i32, i32] i8]
  | .wifiSetInactiveTime => [.int enum [enum, u32] enum, .int u16 [u16, u32] u16]
  | .wifiGetInactiveTime => [.int enum [enum, u32] enum]
  | .wifiStaTwtConfig => [.int .bool [.bool, .bool] .bool, .keepAlive]
  | .wifiStaItwtTeardown | .wifiStaItwtSendProbeReq | .wifiStaItwtSetTargetWakeTimeOffset =>
    [.int i32 [i32, i32] i32]
  | .wifiStaItwtSuspend => [.int i32 [i32, i32] i32, .int i32 [i32, i32] i32]
  | .wifiSetBand | .wifiSetBandMode => [.int enum [enum, u32] enum]
  | .wifiSetProtocols =>
    [.int enum [enum, i32] enum, .int u16 [u16, u32] u16, .int u16 [u16, u32] u16]
  | .wifiSetBandwidths =>
    [.int enum [enum, i32] enum, .int enum [enum, u32] enum, .int enum [enum, u32] enum]
  | .wifiGetProtocols | .wifiGetBandwidths => [.int enum [enum, i32] enum]
  | .ifaceConfigureHeartbeat => [.int .bool [u8, .bool] .bool, .int i32 [u32, i32] i32]
  | .wifiGetConfig => [.int enum [u8, i32] enum]
  | .wifiScanGetApRecords => [.int u16 [i32, i32] u16]
  | .wifiDeauthSta => [.int u16 [u16, i32] u16]
  | .wifiSetPs => [.ps]
  | .wifiSetStorage => [.int enum [enum, i32] enum]
  | .wifiSetBandwidth => [.int enum [enum, i32] enum, .bandwidth]
  | .wifiGetBandwidth => [.int enum [enum, i32] enum]
  | .wifiSetChannel => [.int u8 [u8, i32] u8, .int enum [enum, i32] enum]
  | .wifiSetCountryCode => [.countryCode, .int .bool [.bool, .bool] .bool]
  | .wifiSetCountry => [.array 3, .int u8 [u8, u32] u8, .int u8 [u8, u32] u8,
      .int u8 [u8, i32] i8, .int u8 [u8, i32] enum]
  | .wifiApGetStaAid => [.array 6]
  | .wifiSetProtocol => [.int enum [enum, i32] enum, .int u8 [u8, i32] u8]
  | .wifiGetProtocol => [.unset enum]
  | .eapClientSetIdentity | .eapClientSetUsername | .eapClientSetPassword
  | .eapClientSetNewPassword | .eapClientSetCaCert | .eapClientSetPacFile => [.sized i32]
  | .eapClientSetCertificateAndKey => [.sized i32, .sized i32, .optSized i32]
  | .eapClientSetDisableTimeCheck | .eapClientSetSuiteb192bitCertification
  | .eapClientUseDefaultCertBundle | .wifiSetOkcSupport => [.int .bool [.bool, .bool] .bool]
  | .eapClientSetTtlsPhase2Method | .eapClientSetEapMethods => [.int i32 [i32, i32] i32]
  | .eapClientSetFastParams =>
    [.int i32 [i32, i32] i32, .int i32 [i32, i32] i32, .int .bool [.bool, .bool] .bool]
  | .eapClientSetDomainName => [.text]
  -- whether there is a callback
  | .suppDppInit => [.int .bool [.bool, .bool] .bool]
  | .suppDppBootstrapGen => [.text, .int enum [enum, i32] enum, .optArray 32, .optText]
  | .ifaceMacAddrLenGet => [.int u32 [u32, u32] enum]
  | .ifaceSetMemMonitor => [.mapped 2, .int .bool [.bool, .bool] .bool,
      .int u32 [u32, u32] u32, .int u32 [u32, u32] u32, .int u32 [u32, u32] u32,
      .int u32 [u32, u32] u32, .int u32 [u32, u32] u32]
  -- by way of `FEATURE_OPTION_BT_DEINIT_RELEASE_MEMORY`
  | .btControllerDeinit => [.int .bool [enum, i32] .bool]
  | _ => []

/-- The wrapper looks at more than the types and the pointers. -/
def Wrapper.checks : Wrapper → List Val → Bool
  | .setWifiMode, [.int mode] => decide (mode ≤ 4)
  | .wifiScanGetApRecords, [.int number] => decide (number ≠ 0)
  | _, _ => true

/-- The function that the handler calls. -/
def Wrapper.called : Wrapper → Wrapper
  | .eapClientSetNewPassword => .eapClientSetPassword
  | w => w

/-- The request is composed and sent, and the handler gets as far as the call. -/
def Wrapper.reached (env : Env) : Wrapper → List Val → Bool
  | .wifiStop, _ => !env.restarting
  | .wifiConnect, _ => env.canConnect
  | .wifiGetConfig, [.int iface] => decide (iface ≤ 1)
  | .wifiScanGetApRecords, _ => env.apFound
  | .otaWrite, _ => env.imageValid
  -- memory is allocated for the password unless its length is 0
  | .eapClientSetCertificateAndKey, [_, _, .sized _ len] => decide (0 ≤ len)
  -- not a case of `compose_rpc_req`
  | .eapClientGetDisableTimeCheck, _ => false
  | _, _ => true

/-- The call that the arguments ask for. -/
def Wrapper.direct (w : Wrapper) (args : List Val) : Wrapper × List Val :=
  (w, w.fields.zipWith Field.direct args)

/-- The call of the driver that the handler makes. -/
def Wrapper.delivered (env : Env) (w : Wrapper) (args : List Val) : Option (Wrapper × List Val) :=
  let arrived := w.fields.zipWith (Field.delivered env) args
  if w.reached env arrived then some (w.called, arrived) else none

/-- Arguments that the wrapper accepts. -/
def Wrapper.Accepts (w : Wrapper) (args : List Val) : Prop :=
  w.fields.Forall₂ Field.Accepts args ∧ w.checks args = true

/-! ## Requests of their own -/

/-- `h_wifi_init_config_t`; what the driver's configuration has no counterpart of is left out. -/
structure InitConfig where
  /-- The numbers of buffers and the switches that are only copied. -/
  copied : List Val
  nvsEnable : Int
  cacheTxBufNum : Int
  featureCaps : Int
  deriving DecidableEq

/-- `static_rx_buf_num`, `rx_buf_num`, `static_tx_buf_num`, `tx_buf_num`, `csi_enable`,
`ampdu_rx_enable`, `ampdu_tx_enable`, `nano_enable`, `rx_ba_win_num`, `wifi_task_core_id`,
`sta_mgmt_buf` and `magic`. -/
def initFields : List Field :=
  [.int u8 [u8, i32] i32, .int u16 [u16, i32] i32, .int u8 [u8, i32] i32, .int u16 [u16, i32] i32,
    .int u8 [u8, i32] i32, .int u8 [u8, i32] i32, .int u8 [u8, i32] i32, .int u8 [u8, i32] i32,
    .int u8 [u8, i32] i32, .int i32 [i32, i32] i32, .int u32 [u32, i32] i32,
    .int u32 [u32, i32] i32]

def InitConfig.direct (c : InitConfig) : InitConfig :=
  { c with copied := initFields.zipWith Field.direct c.copied }

/-- `get_merged_init_config`: the numbers of buffers in the cache and the capabilities. -/
def getMergedInitConfig (env : Env) (cacheTxBufNum featureCaps : Int) : Int × Int :=
  if env.cacheTxBuffer then (cacheTxBufNum, featureCaps)
  else if env.featureCaps ≠ featureCaps then (env.cacheTxBufferNum, env.featureCaps)
  else (cacheTxBufNum, featureCaps)

/-- `rpc_wifi_init` to `esp_wifi_init`. -/
def InitConfig.delivered (env : Env) (c : InitConfig) : Option InitConfig :=
  let nvsEnable := if env.nvsEnabled then 1 else c.nvsEnable
  let merged := getMergedInitConfig env (arrives i32 [u8, i32] c.cacheTxBufNum)
    (arrives u64 [u32, u64] c.featureCaps)
  if env.initialized then none
  else some
    { copied := initFields.zipWith (Field.delivered env) c.copied
      nvsEnable := arrives i32 [u8, i32] nvsEnable
      cacheTxBufNum := merged.1
      featureCaps := merged.2 }

/-- The scan times of `h_wifi_scan_default_params_t` and `h_wifi_scan_config_t`. -/
def scanTimes : List Field :=
  [.int u16 [u16, u32] u32, .int u16 [u16, u32] u32, .int u16 [u16, u32] u32,
    .int u8 [u8, u32] u8]

/-- `h_wifi_scan_config_t`. Of the SSID it has the bytes at its address. -/
structure ScanConfig where
  ssid : Option (List UInt8)
  ssidLen : Nat
  bssid : Option (List UInt8)
  /-- Channel, whether hidden access points are shown, and the times. -/
  times : List Val

/-- `wifi_scan_config_t`. Of the SSID it has the text that the driver reads, if that ends. -/
structure DriverScan where
  ssid : Option (Option (List UInt8))
  bssid : Option (List UInt8)
  times : List Val
  deriving DecidableEq

def scanFields : List Field :=
  .int u8 [u8, u32] u8 :: .int .bool [.bool, .bool] .bool :: scanTimes

/-- The SSID is a text if its length is 0. -/
def ScanConfig.direct (c : ScanConfig) : DriverScan :=
  { ssid := c.ssid.map fun mem =>
      cString (if c.ssidLen = 0 then mem else terminated (mem.take c.ssidLen))
    bssid := c.bssid
    times := scanFields.zipWith Field.direct c.times }

/-- The bytes of the SSID in the message. -/
def ssidBytes (len : Nat) (mem : List UInt8) : List UInt8 :=
  let ssidLen := if len ≠ 0 then len else min ((mem.takeWhile (· ≠ 0)).length + 1) 32
  mem.take (min ssidLen 32)

/-- `rpc_wifi_scan_start` to `esp_wifi_scan_start`. -/
def ScanConfig.delivered (env : Env) (c : ScanConfig) : DriverScan :=
  { ssid := c.ssid.map fun mem => cString (ssidBytes c.ssidLen mem)
    bssid := reqCopyBytes c.bssid 6
    times := scanFields.zipWith (Field.delivered env) c.times }

/-- `rpc_wifi_set_config` to `esp_wifi_set_config`: the interface and its configuration. -/
def setConfigDelivered (env : Env) (b : ConfigCodec.Build) (iface : Int) (sta : HostSta)
    (ap : HostAp) : Option (Int × ConfigCodec.Config b) :=
  let iface := arrives i32 [u8, i32] iface
  if iface = 0 then
    if env.stationConnecting then none
    else some (iface, reqWifiSetConfig b (composeRpcReq (.sta sta)))
  else if iface = 1 then some (iface, reqWifiSetConfig b (composeRpcReq (.ap ap)))
  else none

/-- `h_wifi_adapt_config_to_native`: the driver has the configuration of the host. -/
def AdaptsTo {b : ConfigCodec.Build} : HostConfig → ConfigCodec.Config b → Prop
  | .sta c, .sta d => d.ssid = c.ssid ∧ d.password = c.password ∧ d.bssid = c.bssid ∧
      d.channel = c.channel ∧ d.listenInterval = c.listenInterval.toUInt16 ∧
      d.pmfCfg = ⟨c.pmfCfgCapable ≠ 0, c.pmfCfgRequired ≠ 0⟩
  | .ap c, .ap d => d.ssid = c.ssid ∧ d.password = c.password ∧ d.ssidLen = c.ssidLen ∧
      d.channel = c.channel ∧ d.ssidHidden = c.hiddenSsid ∧
      d.maxConnection = c.maxConnection ∧ d.beaconInterval = c.beaconInterval
  | _, _ => False

/-- The arguments of `rpc_set_dhcp_dns_status` that its handler uses. -/
structure DhcpDns where
  iface : Int
  dhcpUp : Int
  dhcpIp : Option (List UInt8)
  dhcpNm : Option (List UInt8)
  dhcpGw : Option (List UInt8)
  dnsUp : Int
  dnsIp : Option (List UInt8)
  dnsType : Int
  deriving DecidableEq

inductive NetCall
  | setSlaveStaticIp (iface : Int) (ip nm gw : Option (List UInt8))
  | setSlaveDns (iface : Int) (ip : Option (List UInt8)) (type : Int)
  deriving DecidableEq

/-- What `req_set_dhcp_dns_status` calls. -/
def DhcpDns.calls (d : DhcpDns) : List NetCall :=
  (if d.dhcpUp ≠ 0 then [.setSlaveStaticIp d.iface d.dhcpIp d.dhcpNm d.dhcpGw] else []) ++
    if d.dnsUp ≠ 0 then [.setSlaveDns d.iface d.dnsIp d.dnsType] else []

/-- A text by way of arrays of 64 bytes, which are zero if there is none. -/
def dhcpText (s : Option (List UInt8)) : Option (List UInt8) :=
  cString (terminated ((s.getD []).take 63))

/-- `rpc_set_dhcp_dns_status` to `req_set_dhcp_dns_status`. -/
def DhcpDns.delivered (d : DhcpDns) : DhcpDns :=
  { iface := arrives enum [i32, i32, u8] d.iface
    dhcpUp := arrives u8 [i32, i32] d.dhcpUp
    dhcpIp := dhcpText d.dhcpIp
    dhcpNm := dhcpText d.dhcpNm
    dhcpGw := dhcpText d.dhcpGw
    dnsUp := arrives u8 [i32, i32] d.dnsUp
    dnsIp := dhcpText d.dnsIp
    dnsType := arrives u8 [i32, i32] d.dnsType }

inductive MacCall
  | set (mac : List UInt8) (type : Int)
  | read (type : Int)
  deriving DecidableEq

/-- `rpc_iface_mac_addr_set_get` to `esp_iface_mac_addr_set` or `esp_read_mac`. -/
def macDelivered (env : Env) (set : Bool) (mac : List UInt8) (type : Int) : Option MacCall :=
  let type := arrives enum [u32, u32] type
  if set then
    if mac.length ≠ 0 ∧ mac.length = env.macAddrLen type then some (.set mac type) else none
  else some (.read type)

/-! ## Calls -/

inductive Call
  | plain (w : Wrapper) (args : List Val)
  | wifiInit (c : InitConfig)
  | wifiSetConfig (iface : Int) (sta : HostSta) (ap : HostAp)
  | wifiSetScanParameters (config : Option (List Val))
  | wifiScanStart (config : Option ScanConfig) (block : Bool)
  | wifiStaItwtSetup (c : ItwtCodec.SetupConfig)
  | setDhcpDnsStatus (d : DhcpDns)
  | ifaceMacAddrSetGet (set : Bool) (mac : List UInt8) (type : Int)

structure InitConfig.Accepts (c : InitConfig) : Prop where
  copied : initFields.Forall₂ Field.Accepts c.copied
  nvsEnable : u8.Holds c.nvsEnable
  cacheTxBufNum : u8.Holds c.cacheTxBufNum
  featureCaps : u32.Holds c.featureCaps

structure ScanConfig.Accepts (c : ScanConfig) : Prop where
  /-- The text ends, or the bytes are there. -/
  ssid : ∀ mem, c.ssid = some mem → if c.ssidLen = 0 then 0 ∈ mem else c.ssidLen ≤ mem.length
  bssid : ∀ mac, c.bssid = some mac → mac.length = 6
  times : scanFields.Forall₂ Field.Accepts c.times

structure DhcpDns.Accepts (d : DhcpDns) : Prop where
  iface : enum.Holds d.iface
  dhcpUp : u8.Holds d.dhcpUp
  dnsUp : u8.Holds d.dnsUp
  dnsType : u8.Holds d.dnsType
  texts : ∀ s ∈ [d.dhcpIp, d.dhcpNm, d.dhcpGw, d.dnsIp], ∀ chars, s = some chars → 0 ∉ chars

/-- The wrapper accepts the arguments. -/
def Call.Accepts : Call → Prop
  | .plain w args => w.Accepts args
  | .wifiInit c => c.Accepts
  | .wifiSetConfig iface _ _ => enum.Holds iface
  | .wifiSetScanParameters config =>
    ∀ times, config = some times → scanTimes.Forall₂ Field.Accepts times
  | .wifiScanStart config _ => ∀ c, config = some c → c.Accepts
  | .wifiStaItwtSetup _ => True
  | .setDhcpDnsStatus d => d.Accepts
  | .ifaceMacAddrSetGet _ _ type => u32.Holds type

/-- The handler calls the driver with the arguments of the wrapper. -/
def Call.Arrives (env : Env) (b : ConfigCodec.Build) (ib : ItwtCodec.Build) : Call → Prop
  | .plain w args => w.delivered env args = some (w.direct args)
  | .wifiInit c => c.delivered env = some c.direct
  | .wifiSetConfig iface sta ap => ∃ d, setConfigDelivered env b iface sta ap = some (iface, d) ∧
      AdaptsTo (if iface = 0 then .sta sta else .ap ap) d
  | .wifiSetScanParameters config => config.map (scanTimes.zipWith (Field.delivered env)) =
      config.map (scanTimes.zipWith Field.direct)
  | .wifiScanStart config _ => config.map (ScanConfig.delivered env) = config.map ScanConfig.direct
  | .wifiStaItwtSetup c =>
    c.Same (ItwtCodec.reqWifiStaItwtSetup (ItwtCodec.composeItwtSetup ib c))
  | .setDhcpDnsStatus d => (if env.networkSplit then d.delivered.calls else []) = d.calls
  | .ifaceMacAddrSetGet set mac type =>
    macDelivered env set mac type = some (if set then .set mac type else .read type)

end EspHosted.Rpc.Requests
