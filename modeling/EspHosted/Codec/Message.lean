import EspHosted.Lib.Checked

/-!
# Messages as protobuf-c decodes them

An `Rpc` carries a type, an id, a uid, and at most one payload. The payload sits in a C union
beside `payload_case`, which names the member that was decoded. Nothing ties the id to the
payload: the decoder takes both from the wire.

A payload and the messages in it are records of named fields. A scalar that is absent reads as
zero, a bytes field that is absent or empty has a `NULL` data pointer, a sub-message that is
absent is a `NULL` pointer, and a repeated field is a list whose elements are all there. An id
is the 32-bit word the enumeration is stored in.

* `Rpc.member` is what a read of one union member finds.
* `Call` has the request kinds, whose response has the id 256 above, and `Event` the events.
-/

namespace EspHosted.Codec

open Checked

/-- The fields that the host or the co-processor reads, under their proto names. -/
inductive Field
  | resp | mode | type | power | passive | min | max | homeChanDwellTime | iface | ssidLen
  | channel | ssidHidden | maxConnection | beaconInterval | listenInterval | capable | required
  | number | primary | second | rssi | authmode | pairwiseCipher | groupCipher | bitmask | bw
  | schan | nchan | maxTxPower | policy | num | aid | protocolBitmap | phymode | major1 | minor1
  | patch1 | revision | prerelease | build | chipId | sec | flowIdBitmap | ifx | ghz2g | ghz5g
  | band | bandmode | len | customMsgId | magicWord | secureVersion | minEfuseBlkRevFull
  | maxEfuseBlkRevFull | mmuPageSize | config | reportAlways | intervalSec | currTotalHeapSize
  | freeSize | largestFreeBlock | disable | level | cpResetReason | hbNum | isMeshChild | reason
  | setupCmd | bitmask1 | minWakeDura | wakeInvlMant | twtId | timeoutTimeMs | status
  | targetWakeTime | flowId | eventId | scanId | dhcpUp | dnsUp | dnsType | netLinkUp
  | currTotalFreeHeapSize | currMinFreeHeapSize | customEventId | uriDataLen | hEventId | cmd
  | isConfigNull | configSet | clientCertLen | privateKeyLen | privateKeyPasswdLen | mac | ssid
  | password | bssid | country | cc | idfTarget | data | version | projectName | time | date
  | idfVer | appElfSha256 | countryLen | phy11b | phy11g | phy11n | phyLr | wps | trigger
  | flowType | wakeInvlExpn | wakeDurationUnit | dhcpIp | dhcpNm | dhcpGw | dnsIp | qrcode | uri
  | clientCert | privateKey | privateKeyPassword | otaData | scanTime | active | cfg | ap | sta
  | apRecord | apRecords | staList | protocols | bandwidths | appDesc | currInternal
  | currExternal | memDma | mem8bit | pmfCfg | threshold | bssMaxIdleCfg | channelBitmap
  | scanDone | staConnected | staDisconnected | actualSuspendTimeMs | setupConfig | eapFastConfig
  | internal | external | reserved
  deriving DecidableEq

/-- A decoded message. `oneof` is the union of a Wi-Fi configuration. -/
structure Msg where
  num : Field → Int := fun _ => 0
  bytes : Field → List UInt8 := fun _ => []
  sub : Field → Option Msg := fun _ => none
  list : Field → List Msg := fun _ => []
  words : Field → List Int := fun _ => []
  oneof : Option (Field × Msg) := none

/-- Read one member of the union in a Wi-Fi configuration. -/
def Msg.unionMember (p : Msg) (f : Field) : Ptr Msg :=
  match p.oneof with
  | none => .null
  | some (g, q) => if f = g then .obj q else .other

/-! ## Message ids -/

inductive Call
  | getMACAddress | setMacAddress | getWifiMode | setWifiMode | suppDppInit | suppDppDeinit
  | suppDppBootstrapGen | suppDppStartListen | suppDppStopListen | otaActivate | appGetDesc
  | memMonitor | wifiScanParams | wifiSetPs | wifiGetPs | otaBegin | otaWrite | otaEnd
  | wifiSetMaxTxPower | wifiGetMaxTxPower | configHeartbeat | wifiInit | wifiDeinit | wifiStart
  | wifiStop | wifiConnect | wifiDisconnect | wifiSetConfig | wifiGetConfig | wifiScanStart
  | wifiScanStop | wifiScanGetApNum | wifiScanGetApRecords | wifiClearApList | wifiRestore
  | wifiClearFastConnect | wifiDeauthSta | wifiStaGetApInfo | wifiSetProtocol | wifiGetProtocol
  | wifiSetBandwidth | wifiGetBandwidth | wifiSetChannel | wifiGetChannel | wifiSetCountry
  | wifiGetCountry | wifiApGetStaList | wifiApGetStaAid | wifiSetStorage | wifiSetInactiveTime
  | wifiGetInactiveTime | wifiSetCountryCode | wifiGetCountryCode | wifiStaGetAid
  | wifiStaGetNegotiatedPhymode | wifiStaGetRssi | wifiSetProtocols | wifiGetProtocols
  | wifiSetBandwidths | wifiGetBandwidths | wifiSetBand | wifiGetBand | wifiSetBandMode
  | wifiGetBandMode | getCoprocessorFwVersion | wifiScanGetApRecord | setDhcpDnsStatus
  | getDhcpDnsStatus | wifiStaTwtConfig | wifiStaItwtSetup | wifiStaItwtTeardown
  | wifiStaItwtSuspend | wifiStaItwtGetFlowIdStatus | wifiStaItwtSendProbeReq
  | wifiStaItwtSetTargetWakeTimeOffset | wifiStaEnterpriseEnable | wifiStaEnterpriseDisable
  | eapSetIdentity | eapClearIdentity | eapSetUsername | eapClearUsername | eapSetPassword
  | eapClearPassword | eapSetNewPassword | eapClearNewPassword | eapSetCaCert | eapClearCaCert
  | eapSetCertificateAndKey | eapClearCertificateAndKey | eapGetDisableTimeCheck
  | eapSetTtlsPhase2Method | eapSetSuitebCertification | eapSetPacFile | eapSetFastParams
  | eapUseDefaultCertBundle | wifiSetOkcSupport | eapSetDomainName | eapSetDisableTimeCheck
  | eapSetEapMethods | ifaceMacAddrSetGet | ifaceMacAddrLenGet | featureControl | customRpc
  | gpioConfig | gpioResetPin | gpioSetLevel | gpioGetLevel | gpioSetDirection | gpioInputEnable
  | gpioSetPullMode | extCoex
  deriving DecidableEq

inductive Event
  | espInit | heartbeat | apStaConnected | apStaDisconnected | wifiEventNoArgs | staScanDone
  | staConnected | staDisconnected | dhcpDnsStatus | staItwtSetup | staItwtTeardown
  | staItwtSuspend | staItwtProbe | suppDppUriReady | suppDppCfgRecvd | suppDppFail
  | wifiDppUriReady | wifiDppCfgRecvd | wifiDppFail | customRpc | memMonitor
  deriving DecidableEq

/-- `RPC_ID__Req_…`. -/
def Call.reqId : Call → Nat
  | .getMACAddress => 257 | .setMacAddress => 258 | .getWifiMode => 259 | .setWifiMode => 260
  | .suppDppInit => 261 | .suppDppDeinit => 262 | .suppDppBootstrapGen => 263
  | .suppDppStartListen => 264 | .suppDppStopListen => 265 | .otaActivate => 266
  | .appGetDesc => 267 | .memMonitor => 268 | .wifiScanParams => 269 | .wifiSetPs => 270
  | .wifiGetPs => 271 | .otaBegin => 272 | .otaWrite => 273 | .otaEnd => 274
  | .wifiSetMaxTxPower => 275 | .wifiGetMaxTxPower => 276 | .configHeartbeat => 277
  | .wifiInit => 278 | .wifiDeinit => 279 | .wifiStart => 280 | .wifiStop => 281
  | .wifiConnect => 282 | .wifiDisconnect => 283 | .wifiSetConfig => 284 | .wifiGetConfig => 285
  | .wifiScanStart => 286 | .wifiScanStop => 287 | .wifiScanGetApNum => 288
  | .wifiScanGetApRecords => 289 | .wifiClearApList => 290 | .wifiRestore => 291
  | .wifiClearFastConnect => 292 | .wifiDeauthSta => 293 | .wifiStaGetApInfo => 294
  | .wifiSetProtocol => 297 | .wifiGetProtocol => 298 | .wifiSetBandwidth => 299
  | .wifiGetBandwidth => 300 | .wifiSetChannel => 301 | .wifiGetChannel => 302
  | .wifiSetCountry => 303 | .wifiGetCountry => 304 | .wifiApGetStaList => 311
  | .wifiApGetStaAid => 312 | .wifiSetStorage => 313 | .wifiSetInactiveTime => 325
  | .wifiGetInactiveTime => 326 | .wifiSetCountryCode => 334 | .wifiGetCountryCode => 335
  | .wifiStaGetAid => 338 | .wifiStaGetNegotiatedPhymode => 339 | .wifiStaGetRssi => 341
  | .wifiSetProtocols => 342 | .wifiGetProtocols => 343 | .wifiSetBandwidths => 344
  | .wifiGetBandwidths => 345 | .wifiSetBand => 346 | .wifiGetBand => 347
  | .wifiSetBandMode => 348 | .wifiGetBandMode => 349 | .getCoprocessorFwVersion => 350
  | .wifiScanGetApRecord => 351 | .setDhcpDnsStatus => 352 | .getDhcpDnsStatus => 353
  | .wifiStaTwtConfig => 354 | .wifiStaItwtSetup => 355 | .wifiStaItwtTeardown => 356
  | .wifiStaItwtSuspend => 357 | .wifiStaItwtGetFlowIdStatus => 358
  | .wifiStaItwtSendProbeReq => 359 | .wifiStaItwtSetTargetWakeTimeOffset => 360
  | .wifiStaEnterpriseEnable => 361 | .wifiStaEnterpriseDisable => 362 | .eapSetIdentity => 363
  | .eapClearIdentity => 364 | .eapSetUsername => 365 | .eapClearUsername => 366
  | .eapSetPassword => 367 | .eapClearPassword => 368 | .eapSetNewPassword => 369
  | .eapClearNewPassword => 370 | .eapSetCaCert => 371 | .eapClearCaCert => 372
  | .eapSetCertificateAndKey => 373 | .eapClearCertificateAndKey => 374
  | .eapGetDisableTimeCheck => 375 | .eapSetTtlsPhase2Method => 376
  | .eapSetSuitebCertification => 377 | .eapSetPacFile => 378 | .eapSetFastParams => 379
  | .eapUseDefaultCertBundle => 380 | .wifiSetOkcSupport => 381 | .eapSetDomainName => 382
  | .eapSetDisableTimeCheck => 383 | .eapSetEapMethods => 384 | .ifaceMacAddrSetGet => 385
  | .ifaceMacAddrLenGet => 386 | .featureControl => 387 | .customRpc => 388 | .gpioConfig => 389
  | .gpioResetPin => 390 | .gpioSetLevel => 391 | .gpioGetLevel => 392 | .gpioSetDirection => 393
  | .gpioInputEnable => 394 | .gpioSetPullMode => 395 | .extCoex => 396

/-- `RPC_ID__Resp_…`. -/
def Call.respId (c : Call) : Nat := c.reqId + 256

/-- `RPC_ID__Event_…`. -/
def Event.id : Event → Nat
  | .espInit => 769 | .heartbeat => 770 | .apStaConnected => 771 | .apStaDisconnected => 772
  | .wifiEventNoArgs => 773 | .staScanDone => 774 | .staConnected => 775
  | .staDisconnected => 776 | .dhcpDnsStatus => 777 | .staItwtSetup => 778
  | .staItwtTeardown => 779 | .staItwtSuspend => 780 | .staItwtProbe => 781
  | .suppDppUriReady => 782 | .suppDppCfgRecvd => 783 | .suppDppFail => 784
  | .wifiDppUriReady => 785 | .wifiDppCfgRecvd => 786 | .wifiDppFail => 787 | .customRpc => 788
  | .memMonitor => 789

def Call.all : List Call :=
  [.getMACAddress, .setMacAddress, .getWifiMode, .setWifiMode, .suppDppInit, .suppDppDeinit,
   .suppDppBootstrapGen, .suppDppStartListen, .suppDppStopListen, .otaActivate, .appGetDesc,
   .memMonitor, .wifiScanParams, .wifiSetPs, .wifiGetPs, .otaBegin, .otaWrite, .otaEnd,
   .wifiSetMaxTxPower, .wifiGetMaxTxPower, .configHeartbeat, .wifiInit, .wifiDeinit, .wifiStart,
   .wifiStop, .wifiConnect, .wifiDisconnect, .wifiSetConfig, .wifiGetConfig, .wifiScanStart,
   .wifiScanStop, .wifiScanGetApNum, .wifiScanGetApRecords, .wifiClearApList, .wifiRestore,
   .wifiClearFastConnect, .wifiDeauthSta, .wifiStaGetApInfo, .wifiSetProtocol, .wifiGetProtocol,
   .wifiSetBandwidth, .wifiGetBandwidth, .wifiSetChannel, .wifiGetChannel, .wifiSetCountry,
   .wifiGetCountry, .wifiApGetStaList, .wifiApGetStaAid, .wifiSetStorage, .wifiSetInactiveTime,
   .wifiGetInactiveTime, .wifiSetCountryCode, .wifiGetCountryCode, .wifiStaGetAid,
   .wifiStaGetNegotiatedPhymode, .wifiStaGetRssi, .wifiSetProtocols, .wifiGetProtocols,
   .wifiSetBandwidths, .wifiGetBandwidths, .wifiSetBand, .wifiGetBand, .wifiSetBandMode,
   .wifiGetBandMode, .getCoprocessorFwVersion, .wifiScanGetApRecord, .setDhcpDnsStatus,
   .getDhcpDnsStatus, .wifiStaTwtConfig, .wifiStaItwtSetup, .wifiStaItwtTeardown,
   .wifiStaItwtSuspend, .wifiStaItwtGetFlowIdStatus, .wifiStaItwtSendProbeReq,
   .wifiStaItwtSetTargetWakeTimeOffset, .wifiStaEnterpriseEnable, .wifiStaEnterpriseDisable,
   .eapSetIdentity, .eapClearIdentity, .eapSetUsername, .eapClearUsername, .eapSetPassword,
   .eapClearPassword, .eapSetNewPassword, .eapClearNewPassword, .eapSetCaCert, .eapClearCaCert,
   .eapSetCertificateAndKey, .eapClearCertificateAndKey, .eapGetDisableTimeCheck,
   .eapSetTtlsPhase2Method, .eapSetSuitebCertification, .eapSetPacFile, .eapSetFastParams,
   .eapUseDefaultCertBundle, .wifiSetOkcSupport, .eapSetDomainName, .eapSetDisableTimeCheck,
   .eapSetEapMethods, .ifaceMacAddrSetGet, .ifaceMacAddrLenGet, .featureControl, .customRpc,
   .gpioConfig, .gpioResetPin, .gpioSetLevel, .gpioGetLevel, .gpioSetDirection, .gpioInputEnable,
   .gpioSetPullMode, .extCoex]

def Event.all : List Event :=
  [.espInit, .heartbeat, .apStaConnected, .apStaDisconnected, .wifiEventNoArgs, .staScanDone,
   .staConnected, .staDisconnected, .dhcpDnsStatus, .staItwtSetup, .staItwtTeardown,
   .staItwtSuspend, .staItwtProbe, .suppDppUriReady, .suppDppCfgRecvd, .suppDppFail,
   .wifiDppUriReady, .wifiDppCfgRecvd, .wifiDppFail, .customRpc, .memMonitor]

def reqCall (id : Nat) : Option Call := Call.all.find? (fun c => c.reqId = id)

def respCall (id : Nat) : Option Call := Call.all.find? (fun c => c.respId = id)

def eventOf (id : Nat) : Option Event := Event.all.find? (fun e => e.id = id)

def respBase : Nat := 512
def respMax : Nat := 653

def typeReq : Nat := 1
def typeResp : Nat := 2
def typeEvent : Nat := 3

/-! ## The union of payloads -/

inductive Member
  | req (c : Call)
  | resp (c : Call)
  | event (e : Event)
  deriving DecidableEq

structure Rpc where
  msgType : Nat
  msgId : Nat
  uid : Nat
  payload : Option (Member × Msg)

/-- What a read of the union member `a` finds, whatever `payload_case` says. -/
def Rpc.member (rpc : Rpc) (a : Member) : Ptr Msg :=
  match rpc.payload with
  | none => .null
  | some (b, p) => if a = b then .obj p else .other

end EspHosted.Codec
