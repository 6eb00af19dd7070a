import EspHosted.Codec.ParseRsp
import EspHosted.Coprocessor.GpioGuard

/-!
# Serving a request on the co-processor

`data_transfer_handler` decodes a request, gives the response the id 256 above and the uid of the
request, and has the handler that `req_table` names for the id fill it in. Nearly every handler
opens with one of two macros: `RPC_TEMPLATE` tests the member of the request it will read, and
`RPC_TEMPLATE_SIMPLE` does not look at the request. Then it calls the driver, and it leaves with
the error in the response, or copies the results of the driver into it.

All features are taken to be compiled in. Of what goes to the driver only the strings, the arrays
and the copies are followed, and of the response the fields that the host reads. What the driver
hands back is taken to be well formed: its strings end, and its arrays are as long as they are
declared. Log output is left out.

* `rpcTemplate`, `rpcTemplateSimple`: how a handler opens;
* `commandHandler` is `req_table`, with the handlers that are no more than a call of the driver;
* `dataTransferHandler`: the response to a request, if there is one.
-/

namespace EspHosted.Codec

open Checked Checked.Prog
open Coprocessor

/-! ## Requests -/

/-- The fields of requests that decide what a handler does, under their proto names. -/
inductive ReqField
  | iface | ifx | cfg | sta | ap | ssid | password | bssid | bssidSet | saeH2eIdentifier | threshold
  | pmfCfg | bssMaxIdleCfg | cmd | isConfigNull | config | scanTime | active | configSet
  | channelBitmap | mac | set | type | country | cc | protocols | bandwidths | setupConfig
  | eapFastConfig | identity | username | newPassword | len | caCert | caCertLen | clientCert
  | clientCertLen | privateKey | privateKeyLen | privateKeyPassword | privateKeyPasswdLen
  | pacFile | pacFileLen | domainName | chanList | key | info | otaData | number | feature
  | command | option | intervalSec | reportAlways | internal | external | thresholdMemDma
  | thresholdMem8bit | customMsgId | data | dhcpUp | dhcpIp | dhcpNm | dhcpGw | dnsUp | dnsIp
  | pinBitMask | mode
  | pullUpEn | pullDownEn | intrType | gpioNum | level | pull | setGpioWireType
  | setGpioRequestPin | setGpioPriorityPin | setGpioGrantPin | setGpioTxLinePin | setWorkMode
  | setGrantDelayUs | setValidateHigh
  deriving DecidableEq

/-- A message of a request. `oneof` is the union of a Wi-Fi configuration. -/
structure ReqMsg where
  num : ReqField → Int := fun _ => 0
  bytes : ReqField → List UInt8 := fun _ => []
  sub : ReqField → Option ReqMsg := fun _ => none
  oneof : Option (ReqField × ReqMsg) := none

def ReqMsg.unionMember (p : ReqMsg) (f : ReqField) : Ptr ReqMsg :=
  match p.oneof with
  | none => .null
  | some (g, q) => if f = g then .obj q else .other

/-- A decoded request. Its payload can be any member of the union. -/
structure ReqRpc where
  msgId : Nat
  uid : Nat
  payload : Option (Member × ReqMsg)

def ReqRpc.member (rpc : ReqRpc) (a : Member) : Ptr ReqMsg :=
  match rpc.payload with
  | none => .null
  | some (b, p) => if a = b then .obj p else .other

def reqBase : Nat := 256

def reqMax : Nat := 397

/-! ## The co-processor -/

/-- What an allocation is for: the response, its payload, the encoded response, a list that the
driver fills in, a list of pointers, the `i`-th field of a name in the payload, the `i`-th
`WifiHeApInfo`, and a buffer that keeps a field of the request. -/
inductive Place
  | rpc
  | resp
  | out
  | scratch
  | list
  | elem (f : Field) (i : Nat)
  | heAp (i : Nat)
  | held (f : ReqField)

/-- What the co-processor's surroundings decide: which allocations succeed, what the driver answers
and hands back, and the state of the other modules. -/
structure CpEnv where
  calloc : Place → Bool
  ret : Int
  out : Rec
  otaPartition : Bool
  firstOtaWrite : Bool
  otaHeaderSize : Nat
  otaValidity : Int
  otaCompleted : Bool
  timerCreate : Bool
  timerStart : Bool
  appDesc : Option Rec
  heap : Field → Field → Rec
  macLen : Int → Nat
  macLen_le : ∀ type, macLen type ≤ 8
  idfTarget : List UInt8
  networkSplit : Bool
  getIpRet : Int
  getDnsRet : Int
  setIpInfoRet : Int
  netif : Int → Bool
  getConfigRet : Int
  stationConnected : Bool
  apNumRet : Int
  apCount : Nat
  apRecords : List Rec
  stas : List Rec
  numStas : Nat
  numStas_le : numStas ≤ stas.length
  customRegistered : Int → Bool
  chip : GpioGuard.Chip
  gpio : GpioGuard.State

def espFail : Int := -1
def espErrInvalidArg : Int := 0x102
def espErrInvalidSize : Int := 0x104
def espErrNotFound : Int := 0x105
def espErrWifiNotInit : Int := 0x3001
def espErrWifiConn : Int := 0x3007
def espErrWifiSsid : Int := 0x300a
def rpcErrMemoryFailure : Int := 0x2f06

/-- `FAILURE` -/
def failure : Int := -1

/-! ## Filling in the response -/

def Msg.withNum (p : Msg) (f : Field) (x : Int) : Msg :=
  { p with num := Function.update p.num f x }

def Msg.withBytes (p : Msg) (f : Field) (b : List UInt8) : Msg :=
  { p with bytes := Function.update p.bytes f b }

def Msg.withSub (p : Msg) (f : Field) (q : Msg) : Msg :=
  { p with sub := Function.update p.sub f (some q) }

def Msg.withList (p : Msg) (f : Field) (qs : List Msg) : Msg :=
  { p with list := Function.update p.list f qs }

def Msg.withNums (p : Msg) (r : Rec) (fs : List Field) : Msg :=
  fs.foldl (fun p f => p.withNum f (r.num f)) p

/-- A change of the message behind a field. -/
def Msg.inside (f : Field) (g : Msg → Msg) (p : Msg) : Msg :=
  { p with sub := Function.update p.sub f ((p.sub f).map g) }

/-- A change of the message in the union. -/
def Msg.insideOneof (g : Msg → Msg) (p : Msg) : Msg :=
  { p with oneof := p.oneof.map fun x => (x.1, g x.2) }

/-- The payload of the response, once there is one, is what the handlers work on. -/
abbrev Handler (α : Type) : Type := Prog (Option Msg) α

/-- Change the payload of the response. -/
def edit (f : Msg → Msg) : Handler Unit := modify (Option.map f)

/-- `resp_payload->resp = x` -/
def setResp (x : Int) : Handler Unit := edit (·.withNum .resp x)

/-- `RPC_RET_FAIL_IF` -/
def retFailIf (x : Int) : Handler Unit :=
  if x = 0 then pure ()
  else do
    setResp x
    fail

/-- The value of a condition. -/
def truth (c : Prop) [Decidable c] : Int := if c then 1 else 0

variable (env : CpEnv) (rpc : ReqRpc)

/-- Leave with an error in the response unless there is memory. -/
def allocOr (err : Int) (place : Place) : Handler Unit :=
  if env.calloc place then pure ()
  else do
    setResp err
    fail

/-- `RPC_ALLOC_ELEMENT` for a field of the payload, or of a message in it. -/
def rpcAllocElement (f : Field) (i : Nat) (attach : Msg → Msg) : Handler Unit := do
  allocOr env rpcErrMemoryFailure (.elem f i)
  edit attach

/-- What `strndup` and the length that `RPC_RESP_COPY_STR` computes make of a string. -/
def cStr (src : List UInt8) (maxLen : Nat) : List UInt8 :=
  (src.takeWhile (· ≠ 0) ++ [0]).take maxLen

/-- `RPC_RESP_COPY_STR` -/
def rpcRespCopyStr (f : Field) (i : Nat) (src : List UInt8) (maxLen : Nat)
    (attach : List UInt8 → Msg → Msg) : Handler Unit := do
  allocOr env failure (.elem f i)
  edit (attach (cStr src maxLen))

/-- `RPC_RESP_COPY_BYTES` -/
def rpcRespCopyBytes (f : Field) (i : Nat) (src : List UInt8) (num : Nat)
    (attach : List UInt8 → Msg → Msg) : Handler Unit := do
  if num = 0 then pure ()
  else do
    allocOr env failure (.elem f i)
    edit (attach (src.take num))

/-- `RPC_REQ_COPY_BYTES` into `room` bytes whose `sizeof` is `size`. -/
def rpcReqCopyBytes (room size num : Nat) (src : List UInt8) : Handler Unit :=
  if src = [] then pure ()
  else note (.copy room src.length (min (min size num) src.length))

/-- A string without a length that the driver searches for its end. -/
def driverStr (src : List UInt8) : Handler Unit :=
  if src = [] then pure () else note (.strlen src.length src)

/-- An array without a length of which the driver reads `num` bytes. -/
def driverBytes (num : Nat) (src : List UInt8) : Handler Unit :=
  if src = [] then pure () else note (.copy num src.length num)

/-- The payload of the response is allocated and says success. -/
def newResp : Handler Unit := do
  need (env.calloc .resp)
  modify fun _ => some {}

/-- `RPC_TEMPLATE` -/
def rpcTemplate (c : Call) (body : ReqMsg → Handler Unit) : Handler Unit := do
  need (!(rpc.member (.req c)).isNull)
  newResp env
  let p ← deref (rpc.member (.req c))
  body p

/-- `RPC_TEMPLATE_SIMPLE` -/
def rpcTemplateSimple (body : Handler Unit) : Handler Unit := do
  newResp env
  body

/-- A handler that asks the driver for numbers. -/
def getNums (fs : List Field) : Handler Unit := do
  retFailIf env.ret
  edit (·.withNums env.out fs)

/-! ## Firmware updates and the device -/

def reqOtaBeginHandler : Handler Unit := do
  newResp env
  if env.otaPartition then setResp env.ret else setResp (-1)

/-- The first write must hold the headers of the image. The request is not tested. -/
def reqOtaWriteHandler : Handler Unit := do
  newResp env
  let p ← deref (rpc.member (.req .otaWrite))
  if env.firstOtaWrite then
    if (p.bytes .otaData).length < env.otaHeaderSize then do
      setResp espErrInvalidSize
      fail
    else retFailIf env.otaValidity
  else pure ()
  setResp env.ret

def reqOtaEndHandler : Handler Unit := do
  newResp env
  setResp env.ret

/-- Without a complete update nothing is activated, and the answer is success. -/
def reqOtaActivateHandler : Handler Unit := do
  newResp env
  if env.otaCompleted then
    if env.ret ≠ 0 then setResp env.ret
    else if env.timerCreate = false then setResp (-1)
    else if env.timerStart = false then setResp (-2)
    else setResp 0
  else setResp 0

def reqGetCoprocessorFwVersion : Handler Unit := rpcTemplateSimple env do
  edit (·.withNums env.out [.major1, .minor1, .patch1])
  edit fun p => p.withNum .revision (-1) |>.withNum .prerelease (-1) |>.withNum .build (-1)
  edit (·.withNums env.out [.chipId])
  rpcRespCopyStr env .idfTarget 0 env.idfTarget env.idfTarget.length fun b p =>
    p.withBytes .idfTarget b
  setResp 0

def reqIfaceMacAddrLenGet : Handler Unit := rpcTemplate env rpc .ifaceMacAddrLenGet fun p =>
  edit fun q => q.withNum .type (p.num .type) |>.withNum .len (env.macLen (p.num .type))

def reqIfaceMacAddrSetGet : Handler Unit := rpcTemplate env rpc .ifaceMacAddrSetGet fun p => do
  edit (·.withNum .type (p.num .type))
  let len := env.macLen (p.num .type)
  if p.num .set ≠ 0 then
    if (p.bytes .mac).length ≠ 0 then
      if (p.bytes .mac).length = len then do
        retFailIf env.ret
        rpcRespCopyBytes env .mac 0 (p.bytes .mac) len fun b q => q.withBytes .mac b
      else setResp espErrInvalidArg
    else setResp espErrInvalidArg
  else do
    retFailIf env.ret
    rpcRespCopyBytes env .mac 0 (env.out.buf .mac) len fun b q => q.withBytes .mac b

/-- The features are Bluetooth (1) and the radio of OpenThread (2), each with its commands. -/
def reqFeatureControl : Handler Unit := rpcTemplate env rpc .featureControl fun p => do
  let command := p.num .command
  let option := p.num .option
  if p.num .feature = 1 then
    if 1 ≤ command ∧ command ≤ 4 then retFailIf env.ret else setResp espErrInvalidArg
  else if p.num .feature = 2 then
    if 5 ≤ command ∧ command ≤ 8 then retFailIf env.ret
    else if command = 9 then
      if option = 2 then setResp 0
      else if 3 ≤ option ∧ option ≤ 5 then setResp env.ret
      else pure ()
    else setResp espErrInvalidArg
  else setResp espErrInvalidArg

def reqAppGetDesc : Handler Unit := rpcTemplateSimple env do
  rpcAllocElement env .appDesc 0 (·.withSub .appDesc {})
  match env.appDesc with
  | none => setResp espFail
  | some desc => do
    let copyText (f : Field) (maxLen : Nat) : Handler Unit :=
      rpcRespCopyStr env f 0 (desc.buf f) maxLen fun b => .inside .appDesc (·.withBytes f b)
    copyText .projectName 32
    copyText .version 32
    copyText .idfVer 32
    edit (.inside .appDesc (·.withNums desc [.magicWord, .secureVersion]))
    copyText .time 16
    copyText .date 16
    rpcRespCopyBytes env .appElfSha256 0 (desc.buf .appElfSha256) 32 fun b =>
      .inside .appDesc (·.withBytes .appElfSha256 b)
    edit (.inside .appDesc
      (·.withNums desc [.minEfuseBlkRevFull, .maxEfuseBlkRevFull, .mmuPageSize]))

/-- `MEMMONITOR_ENABLE` -/
def memMonitorEnable : Int := 2

def memMonitorCheckParams (p : ReqMsg) : Int :=
  match p.sub .internal, p.sub .external with
  | some internal, some external =>
    if p.num .config = memMonitorEnable then
      if p.num .intervalSec = 0 then espErrInvalidArg
      else if p.num .reportAlways = 0 ∧ internal.num .thresholdMemDma = 0 ∧
          internal.num .thresholdMem8bit = 0 ∧ external.num .thresholdMemDma = 0 ∧
          external.num .thresholdMem8bit = 0 then espErrInvalidArg
      else 0
    else 0
  | _, _ => espErrInvalidArg

/-- One part of a memory report. -/
def heapInfo (f : Field) (i : Nat) : Handler Unit := do
  rpcAllocElement env f 0 (·.withSub f {})
  rpcAllocElement env .memDma i (.inside f (·.withSub .memDma {}))
  rpcAllocElement env .mem8bit i (.inside f (·.withSub .mem8bit {}))

/-- Its four numbers. -/
def fillHeapInfo (f : Field) : Handler Unit := do
  edit (.inside f (.inside .memDma
    (·.withNums (env.heap f .memDma) [.freeSize, .largestFreeBlock])))
  edit (.inside f (.inside .mem8bit
    (·.withNums (env.heap f .mem8bit) [.freeSize, .largestFreeBlock])))

def reqMemMonitor : Handler Unit := rpcTemplate env rpc .memMonitor fun p => do
  retFailIf (memMonitorCheckParams p)
  if p.num .config = memMonitorEnable then retFailIf env.ret else pure ()
  edit (·.withNum .config (p.num .config))
  edit (·.withNums env.out [.reportAlways, .intervalSec])
  heapInfo env .currInternal 0
  heapInfo env .currExternal 1
  edit (·.withNums env.out [.currTotalHeapSize])
  fillHeapInfo env .currInternal
  fillHeapInfo env .currExternal

/-- `handle_custom_rpc_request`, whose callback gets the bytes with their length. -/
def handleCustomRpcRequest (p : ReqMsg) : Int :=
  if u32 (p.num .customMsgId) = 0xffffffff then espErrInvalidArg
  else if env.customRegistered (p.num .customMsgId) then 0
  else espErrNotFound

def reqCustomRpcHandler : Handler Unit := rpcTemplate env rpc .customRpc fun p => do
  edit (·.withNum .customMsgId 0)
  setResp (handleCustomRpcRequest env p)

def reqGetDhcpDnsStatus : Handler Unit :=
  -- `strlcpy` goes through the data pointers of the new response, which are `NULL`
  if env.networkSplit then rpcTemplate env rpc .getDhcpDnsStatus fun _ =>
    if env.getIpRet ≠ 0 ∨ env.getDnsRet ≠ 0 then setResp espFail else fault .null
  else rpcTemplateSimple env (setResp espFail)

/-- The address texts are copied into zeroed arrays of 64 bytes and read there as strings. -/
def addressText (src : List UInt8) : Handler Unit := note (.strlen 64 (src.take 64))

/-- `set_slave_static_ip`, only for the station. `ESP_ERROR_CHECK` stops the co-processor when the
addresses are refused. -/
def setSlaveStaticIp (iface : Int) (ip nm gw : List UInt8) : Handler Unit :=
  if iface ≠ 0 then pure ()
  else do
    addressText ip
    addressText nm
    addressText gw
    if env.setIpInfoRet ≠ 0 then fault .abort else pure ()

/-- `set_slave_dns`, whose result nobody looks at. -/
def setSlaveDns (iface : Int) (ip : List UInt8) : Handler Unit :=
  if (iface = 0 ∨ iface = 1) ∧ env.netif iface = true then addressText ip else pure ()

def reqSetDhcpDnsStatus : Handler Unit :=
  if env.networkSplit then rpcTemplate env rpc .setDhcpDnsStatus fun p => do
    let iface := p.num .iface % 256
    rpcReqCopyBytes 64 64 64 (p.bytes .dhcpIp)
    rpcReqCopyBytes 64 64 64 (p.bytes .dhcpNm)
    rpcReqCopyBytes 64 64 64 (p.bytes .dhcpGw)
    rpcReqCopyBytes 64 64 64 (p.bytes .dnsIp)
    if p.num .dhcpUp % 256 ≠ 0 then
      setSlaveStaticIp env iface (p.bytes .dhcpIp) (p.bytes .dhcpNm) (p.bytes .dhcpGw)
    else pure ()
    if p.num .dnsUp % 256 ≠ 0 then setSlaveDns env iface (p.bytes .dnsIp) else pure ()
  else rpcTemplateSimple env (setResp espFail)

/-! ## Wi-Fi -/

/-- The mode is read without a test of the request. -/
def reqWifiGetMac : Handler Unit := rpcTemplateSimple env do
  let _ ← deref (rpc.member (.req .getMACAddress))
  retFailIf env.ret
  rpcRespCopyBytes env .mac 0 (env.out.buf .mac) 6 fun b p => p.withBytes .mac b

def reqWifiSetMac : Handler Unit := rpcTemplate env rpc .setMacAddress fun p => do
  if (p.bytes .mac).length ≠ 6 then setResp espErrInvalidArg
  else retFailIf env.ret

def reqWifiInit : Handler Unit := rpcTemplate env rpc .wifiInit fun p => do
  retFailIf (truth (p.sub .cfg = none))
  let _ ← load (p.sub .cfg)
  retFailIf env.ret

def reqWifiConnect : Handler Unit := rpcTemplateSimple env do
  if env.getConfigRet ≠ 0 then setResp espErrWifiNotInit
  else if (env.out.buf .ssid).takeWhile (· ≠ 0) = [] then setResp espErrWifiSsid
  else if env.stationConnected then setResp 0
  else if env.ret ≠ espErrWifiConn then setResp env.ret
  else pure ()

/-- Read a message behind a pointer if it is there. -/
def readIfPresent (p : ReqMsg) (f : ReqField) : Handler Unit :=
  match p.sub f with
  | none => pure ()
  | some _ => do
    let _ ← load (p.sub f)
    pure ()

/-- The part of `req_wifi_set_config` for the station. -/
def setStaConfig (cfg : ReqMsg) : Handler Unit := do
  retFailIf (truth ((cfg.unionMember .sta).isNull = true))
  let sta ← deref (cfg.unionMember .sta)
  rpcReqCopyBytes 32 32 32 (sta.bytes .ssid)
  rpcReqCopyBytes 64 64 64 (sta.bytes .password)
  if sta.num .bssidSet ≠ 0 then rpcReqCopyBytes 6 6 6 (sta.bytes .bssid) else pure ()
  readIfPresent sta .threshold
  readIfPresent sta .pmfCfg
  rpcReqCopyBytes 32 32 32 (sta.bytes .saeH2eIdentifier)
  -- a configuration that the driver refuses is kept for later, and the answer is success

/-- The part of `req_wifi_set_config` for the soft AP. -/
def setApConfig (cfg : ReqMsg) : Handler Unit := do
  retFailIf (truth ((cfg.unionMember .ap).isNull = true))
  let ap ← deref (cfg.unionMember .ap)
  rpcReqCopyBytes 32 32 32 (ap.bytes .ssid)
  rpcReqCopyBytes 64 64 64 (ap.bytes .password)
  readIfPresent ap .pmfCfg
  readIfPresent ap .bssMaxIdleCfg
  retFailIf env.ret

def reqWifiSetConfig : Handler Unit := rpcTemplate env rpc .wifiSetConfig fun p => do
  retFailIf (truth (p.num .iface ≠ 0 ∧ p.num .iface ≠ 1))
  retFailIf (truth (p.sub .cfg = none))
  let cfg ← load (p.sub .cfg)
  if p.num .iface = 0 then setStaConfig cfg else setApConfig env cfg

/-- `RPC_CMD__Get` and `RPC_CMD__Set` -/
def cmdGet : Int := 1
def cmdSet : Int := 2

/-- The times of a scan, behind two pointers that are not tested. -/
def readScanTime (config : ReqMsg) : Handler Unit := do
  let t ← load (config.sub .scanTime)
  let _ ← load (t.sub .active)
  pure ()

def reqWifiScanParams : Handler Unit := rpcTemplate env rpc .wifiScanParams fun p => do
  if p.num .cmd = cmdSet then do
    if p.num .isConfigNull = 0 ∧ (p.sub .config).isSome then do
      let config ← load (p.sub .config)
      readScanTime config
    else pure ()
    retFailIf env.ret
  else if p.num .cmd = cmdGet then do
    retFailIf env.ret
    rpcAllocElement env .config 0 (·.withSub .config {})
    rpcAllocElement env .scanTime 0 (.inside .config (·.withSub .scanTime {}))
    rpcAllocElement env .active 0 (.inside .config (.inside .scanTime (·.withSub .active {})))
    edit (.inside .config (.inside .scanTime (·.withNums env.out [.passive])))
    edit (.inside .config (.inside .scanTime (.inside .active (·.withNums env.out [.min, .max]))))
    edit (.inside .config (·.withNums env.out [.homeChanDwellTime]))
  else retFailIf espErrInvalidArg

/-- The SSID and the BSSID go to the driver as pointers into the request. -/
def reqWifiScanStart : Handler Unit := rpcTemplate env rpc .wifiScanStart fun p => do
  if p.sub .config = none ∨ p.num .configSet = 0 then pure ()
  else do
    let config ← load (p.sub .config)
    readScanTime config
    readIfPresent config .channelBitmap
    driverStr (config.bytes .ssid)
    driverBytes 6 (config.bytes .bssid)
  retFailIf env.ret

/-- `copy_wifi_sta_cfg_to_rpc_struct` for `Resp_WifiGetConfig`. -/
def copyWifiStaCfgToRpcStruct : Handler Unit := do
  let sta (g : Msg → Msg) : Msg → Msg := .inside .cfg (.insideOneof g)
  rpcAllocElement env .sta 0 (.inside .cfg fun cfg => { cfg with oneof := some (.sta, {}) })
  rpcRespCopyStr env .ssid 0 (env.out.buf .ssid) 32 fun b => sta (·.withBytes .ssid b)
  rpcRespCopyStr env .password 0 (env.out.buf .password) 64 fun b => sta (·.withBytes .password b)
  rpcRespCopyBytes env .bssid 0 (env.out.buf .bssid) 6 fun b => sta (·.withBytes .bssid b)
  rpcAllocElement env .threshold 0 (sta (·.withSub .threshold {}))
  rpcAllocElement env .pmfCfg 0 (sta (·.withSub .pmfCfg {}))
  edit (sta (·.withNums env.out [.channel, .listenInterval]))
  edit (sta (.inside .threshold (·.withNums env.out [.rssi, .authmode])))
  edit (sta (.inside .pmfCfg (·.withNums env.out [.capable, .required])))

/-- The configuration of the soft AP for `Resp_WifiGetConfig`. -/
def copyApConfig : Handler Unit := do
  let ap (g : Msg → Msg) : Msg → Msg := .inside .cfg (.insideOneof g)
  rpcAllocElement env .ap 0 (.inside .cfg fun cfg => { cfg with oneof := some (.ap, {}) })
  rpcRespCopyStr env .password 0 (env.out.buf .password) 64 fun b => ap (·.withBytes .password b)
  edit (ap (·.withNums env.out [.ssidLen]))
  if env.out.num .ssidLen ≠ 0 then
    rpcRespCopyStr env .ssid 0 (env.out.buf .ssid) 32 fun b => ap (·.withBytes .ssid b)
  else pure ()
  edit (ap (·.withNums env.out
    [.channel, .authmode, .ssidHidden, .maxConnection, .beaconInterval, .pairwiseCipher]))
  rpcAllocElement env .pmfCfg 0 (ap (·.withSub .pmfCfg {}))
  edit (ap (.inside .pmfCfg (·.withNums env.out [.capable, .required])))
  rpcAllocElement env .bssMaxIdleCfg 0 (ap (·.withSub .bssMaxIdleCfg {}))

def reqWifiGetConfig : Handler Unit := rpcTemplate env rpc .wifiGetConfig fun p => do
  edit (·.withNum .iface (p.num .iface))
  retFailIf (truth (1 < u32 (p.num .iface)))
  retFailIf env.ret
  rpcAllocElement env .cfg 0 (·.withSub .cfg {})
  if u32 (p.num .iface) = 0 then copyWifiStaCfgToRpcStruct env else copyApConfig env

/-- `copy_ap_record_to_rpc_struct` for the `i`-th record: whether it came to its end, and what it
filled in. -/
def copyApRecordToRpcStruct (i : Nat) (r : Rec) (q : Msg) : Bool × Msg :=
  if env.calloc (.elem .ssid i) = false then (false, q)
  else
    let q := q.withBytes .ssid (cStr (r.buf .ssid) 32)
    if env.calloc (.elem .bssid i) = false then (false, q)
    else
      let q := q.withBytes .bssid ((r.buf .bssid).take 6) |>.withNums r
        [.primary, .second, .rssi, .authmode, .pairwiseCipher, .groupCipher, .bitmask]
      if env.calloc (.elem .cc i) = false then (false, q)
      else (true, q.inside .country fun country => (country.withBytes .cc ((r.buf .cc).take 3))
        |>.withNums r [.schan, .nchan, .maxTxPower, .policy])

/-- A single record of an access point. -/
def copySingleApRecord : Handler Unit := do
  rpcAllocElement env .apRecord 0 (·.withSub .apRecord {})
  rpcAllocElement env .country 0 (.inside .apRecord (·.withSub .country {}))
  allocOr env rpcErrMemoryFailure (.heAp 0)
  edit (.inside .apRecord fun q => (copyApRecordToRpcStruct env 0 env.out q).2)
  if (copyApRecordToRpcStruct env 0 env.out {}).1 then pure () else setResp failure

def reqWifiScanGetApRecord : Handler Unit := rpcTemplateSimple env do
  retFailIf (truth (env.calloc .scratch = false))
  retFailIf env.ret
  copySingleApRecord env

def reqWifiStaGetApInfo : Handler Unit := rpcTemplateSimple env do
  retFailIf env.ret
  copySingleApRecord env

/-- The loop over the records from the `i`-th on. Only complete records are counted. -/
def copyApRecords : Nat → List Rec → Handler Unit
  | _, [] => pure ()
  | i, r :: rs => do
    allocOr env rpcErrMemoryFailure (.elem .apRecord i)
    allocOr env rpcErrMemoryFailure (.elem .country i)
    allocOr env rpcErrMemoryFailure (.heAp i)
    let x := copyApRecordToRpcStruct env i r (({} : Msg).withSub .country {})
    if x.1 then do
      edit fun p => p.withList .apRecords (p.list .apRecords ++ [x.2])
      copyApRecords (i + 1) rs
    else do
      setResp failure
      fail

/-- The number of records is read without a test of the request. The driver hands back no more
records than there is room for. Its errors leave the answer at success, without any record. -/
def reqWifiScanGetApRecords : Handler Unit := rpcTemplateSimple env do
  let p ← deref (rpc.member (.req .wifiScanGetApRecords))
  retFailIf (truth (env.calloc .scratch = false))
  need (env.apNumRet = 0 ∧ env.apCount ≠ 0)
  need (env.ret = 0)
  let records := env.apRecords.take (p.num .number % 65536).toNat
  edit (·.withNum .number records.length)
  allocOr env rpcErrMemoryFailure .list
  copyApRecords env 0 records

def reqWifiSetCountryCode : Handler Unit := rpcTemplate env rpc .wifiSetCountryCode fun p => do
  retFailIf (truth (p.bytes .country = []))
  -- `sizeof` is the one of a pointer
  rpcReqCopyBytes 3 4 2 (p.bytes .country)
  retFailIf env.ret

def reqWifiGetCountryCode : Handler Unit := rpcTemplateSimple env do
  retFailIf env.ret
  rpcRespCopyStr env .country 0 (env.out.buf .country) 3 fun b p => p.withBytes .country b

def reqWifiSetCountry : Handler Unit := rpcTemplate env rpc .wifiSetCountry fun p => do
  retFailIf (truth (p.sub .country = none))
  let country ← load (p.sub .country)
  rpcReqCopyBytes 3 4 3 (country.bytes .cc)
  retFailIf env.ret

def reqWifiGetCountry : Handler Unit := rpcTemplateSimple env do
  retFailIf env.ret
  rpcAllocElement env .country 0 (·.withSub .country {})
  rpcRespCopyBytes env .cc 0 (env.out.buf .cc) 3 fun b => .inside .country (·.withBytes .cc b)
  edit (.inside .country (·.withNums env.out [.schan, .nchan, .maxTxPower, .policy]))

/-- The loop over the stations from the `i`-th on. -/
def copyStas : Nat → List Rec → Handler (List Msg)
  | _, [] => pure []
  | i, r :: rs => do
    allocOr env rpcErrMemoryFailure (.elem .sta i)
    allocOr env failure (.elem .mac i)
    let qs ← copyStas (i + 1) rs
    pure ((({} : Msg).withBytes .mac ((r.buf .mac).take 6) |>.withNums r [.rssi, .bitmask]) :: qs)

/-- All entries of the list are sent, and the number of those that are stations. -/
def reqWifiApGetStaList : Handler Unit := rpcTemplateSimple env do
  retFailIf env.ret
  rpcAllocElement env .staList 0 (·.withSub .staList {})
  need (env.calloc .list)
  let qs ← copyStas env 0 env.stas
  edit (.inside .staList fun l => l.withList .sta qs |>.withNum .num env.numStas)

def reqWifiApGetStaAid : Handler Unit := rpcTemplate env rpc .wifiApGetStaAid fun p => do
  rpcReqCopyBytes 6 6 6 (p.bytes .mac)
  getNums env [.aid]

/-- A pair of values, one for each band. -/
def setBands (c : Call) (f : ReqField) : Handler Unit := rpcTemplate env rpc c fun p => do
  retFailIf (truth (p.sub f = none))
  edit (·.withNum .ifx (p.num .ifx))
  let _ ← load (p.sub f)
  retFailIf env.ret

def reqWifiSetProtocols : Handler Unit := setBands env rpc .wifiSetProtocols .protocols
def reqWifiSetBandwidths : Handler Unit := setBands env rpc .wifiSetBandwidths .bandwidths

def getBands (c : Call) (f : Field) : Handler Unit := rpcTemplate env rpc c fun p => do
  edit (·.withNum .ifx (p.num .ifx))
  retFailIf env.ret
  rpcAllocElement env f 0 (·.withSub f {})
  edit (.inside f (·.withNums env.out [.ghz2g, .ghz5g]))

def reqWifiGetProtocols : Handler Unit := getBands env rpc .wifiGetProtocols .protocols
def reqWifiGetBandwidths : Handler Unit := getBands env rpc .wifiGetBandwidths .bandwidths

/-- A message behind a pointer that is not tested, for the driver. -/
def withConfig (c : Call) (f : ReqField) : Handler Unit := rpcTemplate env rpc c fun p => do
  let _ ← load (p.sub f)
  retFailIf env.ret

def reqWifiStaTwtConfig : Handler Unit := withConfig env rpc .wifiStaTwtConfig .config
def reqWifiStaItwtSetup : Handler Unit := withConfig env rpc .wifiStaItwtSetup .setupConfig
def reqEapSetFastParams : Handler Unit := withConfig env rpc .eapSetFastParams .eapFastConfig

def reqSuppDppBootstrapGen : Handler Unit := rpcTemplate env rpc .suppDppBootstrapGen fun p => do
  driverStr (p.bytes .chanList)
  driverStr (p.bytes .key)
  driverStr (p.bytes .info)
  retFailIf env.ret

/-! ## Enterprise -/

/-- A field of bytes with a separate length, of which the EAP client copies that many bytes if it
takes them. -/
def setText (c : Call) (f lenField : ReqField) : Handler Unit := rpcTemplate env rpc c fun p => do
  retFailIf (truth (p.bytes f = [] ∨ p.num lenField ≤ 0))
  retFailIf env.ret
  note (.copy (p.num lenField).toNat (p.bytes f).length (p.num lenField).toNat)

def reqEapSetIdentity : Handler Unit := setText env rpc .eapSetIdentity .identity .len
def reqEapSetUsername : Handler Unit := setText env rpc .eapSetUsername .username .len
def reqEapSetPassword : Handler Unit := setText env rpc .eapSetPassword .password .len
def reqEapSetNewPassword : Handler Unit := setText env rpc .eapSetNewPassword .newPassword .len
def reqEapSetPacFile : Handler Unit := setText env rpc .eapSetPacFile .pacFile .pacFileLen

/-- A field of bytes is copied into a new buffer of the separate length, unless that is zero. -/
def storeCert (p : ReqMsg) (f lenField : ReqField) : Handler Unit :=
  let size := (u32 (p.num lenField)).toNat
  if size = 0 then pure ()
  else do
    need (env.calloc (.held f))
    note (.copy size (p.bytes f).length size)

def reqEapSetCaCert : Handler Unit := rpcTemplate env rpc .eapSetCaCert fun p => do
  retFailIf (truth (p.bytes .caCert = [] ∨ p.num .caCertLen ≤ 0))
  storeCert env p .caCert .caCertLen
  retFailIf env.ret

/-- A field and its length do not tell the same. -/
def mismatched (p : ReqMsg) (f lenField : ReqField) : Prop :=
  (p.bytes f ≠ [] ∧ p.num lenField ≤ 0) ∨ (0 < p.num lenField ∧ p.bytes f = [])

instance (p : ReqMsg) (f lenField : ReqField) : Decidable (mismatched p f lenField) := by
  unfold mismatched
  infer_instance

def reqEapSetCertificateAndKey : Handler Unit :=
  rpcTemplate env rpc .eapSetCertificateAndKey fun p => do
    retFailIf (truth (mismatched p .clientCert .clientCertLen))
    retFailIf (truth (mismatched p .privateKey .privateKeyLen))
    retFailIf (truth (mismatched p .privateKeyPassword .privateKeyPasswdLen))
    storeCert env p .clientCert .clientCertLen
    storeCert env p .privateKey .privateKeyLen
    storeCert env p .privateKeyPassword .privateKeyPasswdLen
    retFailIf env.ret

def reqEapSetDomainName : Handler Unit := rpcTemplate env rpc .eapSetDomainName fun p => do
  retFailIf (truth (p.bytes .domainName = []))
  driverStr (p.bytes .domainName)
  retFailIf env.ret

/-! ## Pins -/

/-- The answer of the handler for a request about pins. -/
def answerGpio (r : GpioGuard.Request) : Handler Unit := do
  let answer := (r.handle env.chip env.ret env.gpio).1
  setResp answer.resp
  edit (·.withNum .level answer.level)

def reqGpioConfig : Handler Unit := rpcTemplate env rpc .gpioConfig fun p => do
  let config ← load (p.sub .config)
  answerGpio env (.gpioConfig {
    pinBitMask := BitVec.ofInt 64 (config.num .pinBitMask)
    mode := config.num .mode
    pullUpEn := config.num .pullUpEn ≠ 0
    pullDownEn := config.num .pullDownEn ≠ 0
    intrType := config.num .intrType })

def reqGpioReset : Handler Unit := rpcTemplate env rpc .gpioResetPin fun p =>
  answerGpio env (.gpioReset (p.num .gpioNum))

def reqGpioSetLevel : Handler Unit := rpcTemplate env rpc .gpioSetLevel fun p =>
  answerGpio env (.gpioSetLevel (p.num .gpioNum) (u32 (p.num .level)).toNat)

def reqGpioGetLevel : Handler Unit := rpcTemplate env rpc .gpioGetLevel fun p =>
  answerGpio env (.gpioGetLevel (p.num .gpioNum))

def reqGpioSetDirection : Handler Unit := rpcTemplate env rpc .gpioSetDirection fun p =>
  answerGpio env (.gpioSetDirection (p.num .gpioNum) (p.num .mode))

def reqGpioInputEnable : Handler Unit := rpcTemplate env rpc .gpioInputEnable fun p =>
  answerGpio env (.gpioInputEnable (p.num .gpioNum))

def reqGpioSetPullMode : Handler Unit := rpcTemplate env rpc .gpioSetPullMode fun p =>
  answerGpio env (.gpioSetPullMode (p.num .gpioNum) (p.num .pull))

/-- The command of `Rpc_Req_ExtCoex` with its fields. -/
def coexCmd (p : ReqMsg) : GpioGuard.CoexCmd :=
  let word (f : ReqField) : Nat := (u32 (p.num f)).toNat
  if word .cmd = 0 then .setGpioPin (word .setGpioWireType)
    ⟨p.num .setGpioRequestPin, p.num .setGpioPriorityPin, p.num .setGpioGrantPin,
      p.num .setGpioTxLinePin⟩
  else if word .cmd = 1 then .disable
  else if word .cmd = 2 then .setWorkMode (word .setWorkMode)
  else if word .cmd = 3 then .setGrantDelay (word .setGrantDelayUs)
  else if word .cmd = 4 then .setValidateHigh (p.num .setValidateHigh ≠ 0)
  else .unknown

def reqExtCoex : Handler Unit := rpcTemplate env rpc .extCoex fun p =>
  answerGpio env (.extCoex (coexCmd p))

/-! ## The dispatcher -/

/-- `req_table`. The handlers that call the driver and nothing else have no definition of their
own. -/
def commandHandler (c : Call) : Handler Unit :=
  match c with
  | .getMACAddress => reqWifiGetMac env rpc
  | .setMacAddress => reqWifiSetMac env rpc
  | .getWifiMode => rpcTemplateSimple env (getNums env [.mode])
  | .setWifiMode => rpcTemplate env rpc c fun _ => retFailIf env.ret
  | .suppDppInit => rpcTemplate env rpc c fun _ => retFailIf env.ret
  | .suppDppDeinit => rpcTemplateSimple env (retFailIf env.ret)
  | .suppDppBootstrapGen => reqSuppDppBootstrapGen env rpc
  | .suppDppStartListen => rpcTemplateSimple env (retFailIf env.ret)
  | .suppDppStopListen => rpcTemplateSimple env (retFailIf env.ret)
  | .otaActivate => reqOtaActivateHandler env
  | .appGetDesc => reqAppGetDesc env
  | .memMonitor => reqMemMonitor env rpc
  | .wifiScanParams => reqWifiScanParams env rpc
  | .wifiSetPs => rpcTemplate env rpc c fun _ => retFailIf env.ret
  | .wifiGetPs => rpcTemplateSimple env (getNums env [.type])
  | .otaBegin => reqOtaBeginHandler env
  | .otaWrite => reqOtaWriteHandler env rpc
  | .otaEnd => reqOtaEndHandler env
  | .wifiSetMaxTxPower => rpcTemplate env rpc c fun _ => retFailIf env.ret
  | .wifiGetMaxTxPower => rpcTemplateSimple env (getNums env [.power])
  | .configHeartbeat => rpcTemplate env rpc c fun _ => retFailIf env.ret
  | .wifiInit => reqWifiInit env rpc
  | .wifiDeinit => rpcTemplateSimple env (retFailIf env.ret)
  | .wifiStart => rpcTemplateSimple env (retFailIf env.ret)
  | .wifiStop => rpcTemplateSimple env (retFailIf env.ret)
  | .wifiConnect => reqWifiConnect env
  | .wifiDisconnect => rpcTemplateSimple env (retFailIf env.ret)
  | .wifiSetConfig => reqWifiSetConfig env rpc
  | .wifiGetConfig => reqWifiGetConfig env rpc
  | .wifiScanStart => reqWifiScanStart env rpc
  | .wifiScanStop => rpcTemplateSimple env (retFailIf env.ret)
  | .wifiScanGetApNum => rpcTemplateSimple env (getNums env [.number])
  | .wifiScanGetApRecords => reqWifiScanGetApRecords env rpc
  | .wifiClearApList => rpcTemplateSimple env (retFailIf env.ret)
  | .wifiRestore => rpcTemplateSimple env (retFailIf env.ret)
  | .wifiClearFastConnect => rpcTemplateSimple env (retFailIf env.ret)
  | .wifiDeauthSta => rpcTemplate env rpc c fun _ => retFailIf env.ret
  | .wifiStaGetApInfo => reqWifiStaGetApInfo env
  | .wifiSetProtocol => rpcTemplate env rpc c fun _ => retFailIf env.ret
  | .wifiGetProtocol => rpcTemplate env rpc c fun _ => getNums env [.protocolBitmap]
  | .wifiSetBandwidth => rpcTemplate env rpc c fun _ => retFailIf env.ret
  | .wifiGetBandwidth => rpcTemplate env rpc c fun _ => getNums env [.bw]
  | .wifiSetChannel => rpcTemplate env rpc c fun _ => retFailIf env.ret
  | .wifiGetChannel => rpcTemplateSimple env (getNums env [.primary, .second])
  | .wifiSetCountry => reqWifiSetCountry env rpc
  | .wifiGetCountry => reqWifiGetCountry env
  | .wifiApGetStaList => reqWifiApGetStaList env
  | .wifiApGetStaAid => reqWifiApGetStaAid env rpc
  | .wifiSetStorage => rpcTemplate env rpc c fun _ => retFailIf env.ret
  | .wifiSetInactiveTime => rpcTemplate env rpc c fun _ => retFailIf env.ret
  | .wifiGetInactiveTime => rpcTemplate env rpc c fun _ => getNums env [.sec]
  | .wifiSetCountryCode => reqWifiSetCountryCode env rpc
  | .wifiGetCountryCode => reqWifiGetCountryCode env
  | .wifiStaGetAid => rpcTemplateSimple env (getNums env [.aid])
  | .wifiStaGetNegotiatedPhymode => rpcTemplateSimple env (getNums env [.phymode])
  | .wifiStaGetRssi => rpcTemplateSimple env (getNums env [.rssi])
  | .wifiSetProtocols => reqWifiSetProtocols env rpc
  | .wifiGetProtocols => reqWifiGetProtocols env rpc
  | .wifiSetBandwidths => reqWifiSetBandwidths env rpc
  | .wifiGetBandwidths => reqWifiGetBandwidths env rpc
  | .wifiSetBand => rpcTemplate env rpc c fun _ => retFailIf env.ret
  | .wifiGetBand => rpcTemplateSimple env (getNums env [.band])
  | .wifiSetBandMode => rpcTemplate env rpc c fun _ => retFailIf env.ret
  | .wifiGetBandMode => rpcTemplateSimple env (getNums env [.bandmode])
  | .getCoprocessorFwVersion => reqGetCoprocessorFwVersion env
  | .wifiScanGetApRecord => reqWifiScanGetApRecord env
  | .setDhcpDnsStatus => reqSetDhcpDnsStatus env rpc
  | .getDhcpDnsStatus => reqGetDhcpDnsStatus env rpc
  | .wifiStaTwtConfig => reqWifiStaTwtConfig env rpc
  | .wifiStaItwtSetup => reqWifiStaItwtSetup env rpc
  | .wifiStaItwtTeardown => rpcTemplate env rpc c fun _ => retFailIf env.ret
  | .wifiStaItwtSuspend => rpcTemplate env rpc c fun _ => retFailIf env.ret
  | .wifiStaItwtGetFlowIdStatus => rpcTemplateSimple env (getNums env [.flowIdBitmap])
  | .wifiStaItwtSendProbeReq => rpcTemplate env rpc c fun _ => retFailIf env.ret
  | .wifiStaItwtSetTargetWakeTimeOffset => rpcTemplate env rpc c fun _ => retFailIf env.ret
  | .wifiStaEnterpriseEnable => rpcTemplateSimple env (retFailIf env.ret)
  | .wifiStaEnterpriseDisable => rpcTemplateSimple env (retFailIf env.ret)
  | .eapSetIdentity => reqEapSetIdentity env rpc
  | .eapClearIdentity => rpcTemplateSimple env (pure ())
  | .eapSetUsername => reqEapSetUsername env rpc
  | .eapClearUsername => rpcTemplateSimple env (pure ())
  | .eapSetPassword => reqEapSetPassword env rpc
  | .eapClearPassword => rpcTemplateSimple env (pure ())
  | .eapSetNewPassword => reqEapSetNewPassword env rpc
  | .eapClearNewPassword => rpcTemplateSimple env (pure ())
  | .eapSetCaCert => reqEapSetCaCert env rpc
  | .eapClearCaCert => rpcTemplateSimple env (pure ())
  | .eapSetCertificateAndKey => reqEapSetCertificateAndKey env rpc
  | .eapClearCertificateAndKey => rpcTemplateSimple env (pure ())
  | .eapGetDisableTimeCheck => rpcTemplateSimple env (getNums env [.disable])
  | .eapSetTtlsPhase2Method => rpcTemplate env rpc c fun _ => retFailIf env.ret
  | .eapSetSuitebCertification => rpcTemplate env rpc c fun _ => retFailIf env.ret
  | .eapSetPacFile => reqEapSetPacFile env rpc
  | .eapSetFastParams => reqEapSetFastParams env rpc
  | .eapUseDefaultCertBundle => rpcTemplate env rpc c fun _ => retFailIf env.ret
  | .wifiSetOkcSupport => rpcTemplate env rpc c fun _ => pure ()
  | .eapSetDomainName => reqEapSetDomainName env rpc
  | .eapSetDisableTimeCheck => rpcTemplate env rpc c fun _ => retFailIf env.ret
  | .eapSetEapMethods => rpcTemplate env rpc c fun _ => retFailIf env.ret
  | .ifaceMacAddrSetGet => reqIfaceMacAddrSetGet env rpc
  | .ifaceMacAddrLenGet => reqIfaceMacAddrLenGet env rpc
  | .featureControl => reqFeatureControl env rpc
  | .customRpc => reqCustomRpcHandler env rpc
  | .gpioConfig => reqGpioConfig env rpc
  | .gpioResetPin => reqGpioReset env rpc
  | .gpioSetLevel => reqGpioSetLevel env rpc
  | .gpioGetLevel => reqGpioGetLevel env rpc
  | .gpioSetDirection => reqGpioSetDirection env rpc
  | .gpioInputEnable => reqGpioInputEnable env rpc
  | .gpioSetPullMode => reqGpioSetPullMode env rpc
  | .extCoex => reqExtCoex env rpc

/-- The handler for an id, as the range test and `lookup_req_handler` find it. -/
def lookupReqHandler : Option Call :=
  if rpc.msgId ≤ reqBase ∨ reqMax ≤ rpc.msgId then none else reqCall rpc.msgId

/-- `esp_rpc_command_dispatcher`: the id of the response. An error of a handler changes nothing. -/
def espRpcCommandDispatcher : Handler Nat :=
  match lookupReqHandler rpc with
  | none => pure respBase
  | some c => do
    let _ ← attempt (commandHandler env rpc c)
    pure c.respId

/-- `data_transfer_handler`: the response, if there is memory for it. Its payload is the one that
belongs to the id 256 above the request's. -/
def dataTransferHandler : Handler (Option Rpc) :=
  if env.calloc .rpc then do
    let id ← espRpcCommandDispatcher env rpc
    let payload ← Prog.get
    if env.calloc .out then
      pure (some {
        msgType := typeResp
        msgId := id
        uid := rpc.uid
        payload := (lookupReqHandler rpc).bind fun c => payload.map (.resp c, ·) })
    else pure none
  else pure none

end EspHosted.Codec
