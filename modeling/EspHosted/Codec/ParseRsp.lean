import EspHosted.Codec.Message
import Mathlib.Algebra.Group.Int.Defs
import Mathlib.Logic.Function.Basic

/-!
# Parsing a response on the host

`rpc_parse_rsp` copies a decoded response into a zeroed `ctrl_cmd_t`. It switches on the id of
the message. Every branch tests one member of the payload union for `NULL`, takes the status the
co-processor put into it, and copies the fields. Some branches test one member and read
another.

All features are taken to be compiled in. A scalar is stored as it was decoded; the narrowing
to the type of its destination is written out where the code decides on the result, and in the
bit fields. The fields keep their proto names in the destination.

* `checked` is the test that opens nearly every branch, `parseRespBody` what follows once the
  tested member says success.
* `parseResp` is the switch, and `rpcParseRsp` the whole function.
-/

namespace EspHosted.Codec

open Checked Checked.Prog

/-! ## The result structure -/

/-- Plain fields and byte arrays, all of them zero at first. An array is given by the bytes that
were copied to its start. -/
structure Rec where
  num : Field → Int := fun _ => 0
  buf : Field → List UInt8 := fun _ => []

/-- The `ctrl_cmd_t` of a response or an event. `u` is the union of results, without the lists:
`outList` are the AP records, `sta` the stations, and `words` other tables of numbers. -/
structure CtrlCmd where
  msgType : Nat := 0
  msgId : Nat := 0
  uid : Nat := 0
  respEventStatus : Int := 0
  u : Rec := {}
  outList : Option (List Rec) := none
  sta : List Rec := []
  words : List Int := []

def hOk : Int := 0
def hFail : Int := -1
def hErrInvalidArg : Int := -2
def hErrNotSup : Int := -5

def u8 (x : Int) : Int := x % 256
def u32 (x : Int) : Int := x % 4294967296

/-- `H_GET_BIT`. -/
def hGetBit (pos : Nat) (x : Int) : Int := x / 2 ^ pos % 2

/-- What the host's surroundings decide: whether the `ctrl_cmd_t`, a list of AP records and
other buffers can be allocated, which events have a callback, whether there is a queue for the
supplicant's events, and how long an URI may be. -/
structure HostEnv where
  callocCmd : Bool := true
  callocList : Bool := true
  malloc : Bool := true
  registered : Event → Bool := fun _ => true
  suppQueue : Bool := true
  dppUriLenMax : Nat := 0

/-- `H_EVENT_WIFI_DPP_URI_LEN_MAX`, with the terminating zero. -/
def HostEnv.uriLenMax (env : HostEnv) : Nat := env.dppUriLenMax + 1

/-! ## Copies -/

def Rec.setNum (r : Rec) (f : Field) (x : Int) : Rec := { r with num := Function.update r.num f x }

def Rec.setBuf (r : Rec) (f : Field) (b : List UInt8) : Rec :=
  { r with buf := Function.update r.buf f b }

def Rec.copyNums (r : Rec) (p : Msg) (fs : List Field) : Rec :=
  fs.foldl (fun r f => r.setNum f (p.num f)) r

def setU (f : Rec → Rec) : Prog CtrlCmd Unit := modify fun a => { a with u := f a.u }

def setStatus (x : Int) : Prog CtrlCmd Unit := modify fun a => { a with respEventStatus := x }

def copyNums (p : Msg) (fs : List Field) : Prog CtrlCmd Unit := setU (·.copyNums p fs)

/-- `RPC_RSP_COPY_BYTES`: as many bytes as arrived, into an array of `room` bytes. -/
def rpcRspCopyBytes {σ : Type} (room : Nat) (src : List UInt8) : Prog σ (List UInt8) :=
  if src = [] then pure [] else memcpy room src src.length

/-- `RPC_UTILS_COPY_BYTES`: no more than the array holds. -/
def rpcUtilsCopyBytes {σ : Type} (room : Nat) (src : List UInt8) : Prog σ (List UInt8) :=
  if src = [] then pure [] else memcpy room src (min src.length room)

/-- `RPC_RSP_COPY_BYTES` into an array of the result. -/
def copyToU (f : Field) (room : Nat) (src : List UInt8) : Prog CtrlCmd Unit := do
  let b ← rpcRspCopyBytes room src
  setU (·.setBuf f b)

/-- `rpc_copy_ap_record`. -/
def rpcCopyApRecord {σ : Type} (r : Msg) : Prog σ Rec := do
  let ssid ← rpcRspCopyBytes 32 (r.bytes .ssid)
  let bssid ← rpcRspCopyBytes 6 (r.bytes .bssid)
  let x := (({} : Rec).copyNums r
    [.primary, .second, .rssi, .authmode, .pairwiseCipher, .groupCipher])
    |>.setBuf .ssid ssid |>.setBuf .bssid bssid
    |>.setNum .ssidLen (min (r.bytes .ssid).length 32)
    |>.setNum .phy11b (hGetBit 0 (r.num .bitmask)) |>.setNum .phy11g (hGetBit 1 (r.num .bitmask))
    |>.setNum .phy11n (hGetBit 2 (r.num .bitmask)) |>.setNum .phyLr (hGetBit 3 (r.num .bitmask))
    |>.setNum .wps (hGetBit 5 (r.num .bitmask))
  match r.sub .country with
  | none => pure x
  | some country => do
    let cc ← rpcRspCopyBytes 3 (country.bytes .cc)
    pure (x.setBuf .country cc |>.setNum .countryLen (min (country.bytes .cc).length 3))

/-- One station of the list in `Resp_WifiApGetStaList`. -/
def copyStaInfo {σ : Type} (r : Msg) : Prog σ Rec := do
  let mac ← rpcRspCopyBytes 6 (r.bytes .mac)
  pure (({} : Rec).setBuf .mac mac |>.setNum .rssi (r.num .rssi))

/-- The members `rpc_copy_wifi_sta_config` fills in; the rest of the destination is zero. -/
def rpcCopyWifiStaConfig (src : Msg) : Prog CtrlCmd Unit := do
  let ssid ← rpcUtilsCopyBytes 32 (src.bytes .ssid)
  let password ← rpcUtilsCopyBytes 64 (src.bytes .password)
  let bssid ← rpcUtilsCopyBytes 6 (src.bytes .bssid)
  setU fun r => r.setBuf .ssid ssid |>.setNum .ssidLen (min (src.bytes .ssid).length 32)
    |>.setBuf .password password |>.setBuf .bssid bssid
    |>.copyNums src [.channel, .listenInterval]
  match src.sub .pmfCfg with
  | none => pure ()
  | some pmf =>
    setU (·.setNum .capable (if pmf.num .capable = 0 then 0 else 1))
    setU (·.setNum .required (if pmf.num .required = 0 then 0 else 1))

/-- The eight numbers of a memory report, each behind two pointers that were tested before. -/
def memInfo (p : Msg) : Prog CtrlCmd (List Int) := do
  let inl ← load (p.sub .currInternal)
  let ext ← load (p.sub .currExternal)
  let inlDma ← load (inl.sub .memDma)
  let inl8bit ← load (inl.sub .mem8bit)
  let extDma ← load (ext.sub .memDma)
  let ext8bit ← load (ext.sub .mem8bit)
  pure ([inlDma, inl8bit, extDma, ext8bit].flatMap fun i =>
    [i.num .freeSize, i.num .largestFreeBlock])

/-- The six tests for `NULL` before a memory report is read. -/
def needMemInfo (p : Msg) : Prog CtrlCmd Unit := do
  need (p.sub .currInternal).isSome
  let inl ← load (p.sub .currInternal)
  need (inl.sub .memDma).isSome
  need (inl.sub .mem8bit).isSome
  need (p.sub .currExternal).isSome
  let ext ← load (p.sub .currExternal)
  need (ext.sub .memDma).isSome
  need (ext.sub .mem8bit).isSome

/-! ## The switch -/

/-- The branch for `Resp_WifiGetConfig`. -/
def parseGetConfig (p : Msg) : Prog CtrlCmd Unit := do
  need (p.sub .cfg).isSome
  let cfg ← load (p.sub .cfg)
  let iface := u8 (p.num .iface)
  setU (·.setNum .iface iface)
  if iface = 0 then do
    let sta ← nonNull (cfg.unionMember .sta)
    rpcCopyWifiStaConfig sta
  else if iface = 1 then do
    let ap ← nonNull (cfg.unionMember .ap)
    copyToU .ssid 32 (ap.bytes .ssid)
    copyToU .password 64 (ap.bytes .password)
    copyNums ap [.ssidLen, .channel, .ssidHidden, .maxConnection, .beaconInterval]
  else pure ()

/-- The branch for `Resp_WifiScanGetApRecords`. The index of its loop has 16 bits, so the loop
does not end when more records are announced than it can count. -/
def parseApRecords (env : HostEnv) (p : Msg) : Prog CtrlCmd Unit := do
  let n := (p.num .number).toNat
  setU (·.setNum .number (p.num .number))
  need (p.num .number ≠ 0)
  need (p.list .apRecords ≠ [])
  need env.callocList
  modify fun a => { a with outList := some (List.replicate n {}) }
  let rs ← takeEach rpcCopyApRecord (min n 65536) (p.list .apRecords)
  if n < 65536 then do
    note (.list n (p.list .apRecords).length n rs.length)
    modify fun a => { a with outList := some rs }
  else fault .endless

/-- The branch for `Resp_WifiStaGetApInfo`. -/
def parseApInfo (env : HostEnv) (p : Msg) : Prog CtrlCmd Unit := do
  setU (·.setNum .number 1)
  need (p.sub .apRecord).isSome
  need env.callocList
  modify fun a => { a with outList := some [{}] }
  let r ← load (p.sub .apRecord)
  let x ← rpcCopyApRecord r
  modify fun a => { a with outList := some [x] }

/-- How many stations are copied: as many as are announced, ten at most. -/
def numStations (l : Msg) : Nat := min (u32 (l.num .num)).toNat 10

/-- The branch for `Resp_WifiApGetStaList`. -/
def parseStaList (p : Msg) : Prog CtrlCmd Unit := do
  let l ← load (p.sub .staList)
  let rs ← takeEach copyStaInfo (numStations l) (l.list .sta)
  note (.list (u32 (l.num .num)).toNat (l.list .sta).length 10 rs.length)
  modify fun a => { a with sta := rs }
  setU (·.setNum .num (numStations l))

/-- The branch for `Resp_GetCoprocessorFwVersion`. -/
def parseFwVersion (p : Msg) : Prog CtrlCmd Unit := do
  let orMinusOne := fun x : Int => if x = 0 then -1 else x
  copyNums p [.major1, .minor1, .patch1]
  setU fun r => r.setNum .revision (orMinusOne (p.num .revision))
    |>.setNum .prerelease (orMinusOne (p.num .prerelease))
    |>.setNum .build (orMinusOne (p.num .build))
  copyNums p [.chipId]
  let copySize := min (p.bytes .idfTarget).length 19
  if copySize = 0 then pure ()
  else do
    let b ← memcpy 20 (p.bytes .idfTarget) copySize
    setU (·.setBuf .idfTarget b)

/-- The branch for `Resp_CustomRpc`. -/
def parseCustomRpc (env : HostEnv) (p : Msg) : Prog CtrlCmd Unit := do
  copyNums p [.customMsgId]
  if p.bytes .data = [] then pure ()
  else do
    need env.malloc
    let b ← memcpy (p.bytes .data).length (p.bytes .data) (p.bytes .data).length
    setU (·.setBuf .data b)

/-- The branch for `Resp_AppGetDesc`. -/
def parseAppDesc (p : Msg) : Prog CtrlCmd Unit := do
  need (p.sub .appDesc).isSome
  let d ← load (p.sub .appDesc)
  copyNums d [.magicWord, .secureVersion]
  copyToU .version 32 (d.bytes .version)
  copyToU .projectName 32 (d.bytes .projectName)
  copyToU .time 16 (d.bytes .time)
  copyToU .date 16 (d.bytes .date)
  copyToU .idfVer 32 (d.bytes .idfVer)
  copyToU .appElfSha256 32 (d.bytes .appElfSha256)
  copyNums d [.minEfuseBlkRevFull, .maxEfuseBlkRevFull, .mmuPageSize]

/-- The branch for `Resp_MemMonitor`. -/
def parseMemMonitor (p : Msg) : Prog CtrlCmd Unit := do
  needMemInfo p
  if p.num .config = 0 ∨ p.num .config = 1 ∨ p.num .config = 2 then copyNums p [.config]
  else pure ()
  copyNums p [.reportAlways, .intervalSec, .currTotalHeapSize]
  let words ← memInfo p
  modify fun a => { a with words := words }

/-- A pair of values, one for each band, behind a pointer that is not tested. -/
def parseBands (p : Msg) (f : Field) : Prog CtrlCmd Unit := do
  copyNums p [.ifx]
  let b ← load (p.sub f)
  copyNums b [.ghz2g, .ghz5g]

/-- What a branch does with the member it tested, when that says success. -/
def parseRespBody (env : HostEnv) (c : Call) (p : Msg) : Prog CtrlCmd Unit :=
  match c with
  | .getMACAddress => do
    need (p.bytes .mac ≠ [])
    copyToU .mac 6 (p.bytes .mac)
  | .getWifiMode => copyNums p [.mode]
  | .wifiGetPs => copyNums p [.type]
  | .wifiGetMaxTxPower => copyNums p [.power]
  | .wifiGetConfig => parseGetConfig p
  | .wifiScanGetApNum => copyNums p [.number]
  | .wifiScanGetApRecords => parseApRecords env p
  | .wifiStaGetApInfo => parseApInfo env p
  | .wifiGetBandwidth => copyNums p [.bw]
  | .wifiGetChannel => copyNums p [.primary, .second]
  | .wifiGetCountryCode => copyToU .cc 3 (p.bytes .country)
  | .wifiGetCountry => do
    let country ← load (p.sub .country)
    copyToU .cc 3 (country.bytes .cc)
    copyNums country [.schan, .nchan, .maxTxPower, .policy]
  | .wifiApGetStaList => parseStaList p
  | .wifiApGetStaAid => copyNums p [.aid]
  | .wifiStaGetRssi => copyNums p [.rssi]
  | .wifiGetProtocol => copyNums p [.protocolBitmap]
  | .wifiStaGetNegotiatedPhymode => copyNums p [.phymode]
  | .wifiStaGetAid => copyNums p [.aid]
  | .getCoprocessorFwVersion => parseFwVersion p
  | .wifiGetInactiveTime => copyNums p [.sec]
  | .wifiStaItwtGetFlowIdStatus => copyNums p [.flowIdBitmap]
  | .wifiSetProtocols => copyNums p [.ifx]
  | .wifiGetProtocols => parseBands p .protocols
  | .wifiSetBandwidths => copyNums p [.ifx]
  | .wifiGetBandwidths => parseBands p .bandwidths
  | .wifiGetBand => copyNums p [.band]
  | .wifiGetBandMode => copyNums p [.bandmode]
  | .ifaceMacAddrSetGet => copyToU .mac 8 (p.bytes .mac)
  | .ifaceMacAddrLenGet => copyNums p [.type, .len]
  | .customRpc => parseCustomRpc env p
  | .appGetDesc => parseAppDesc p
  | .memMonitor => parseMemMonitor p
  | .eapGetDisableTimeCheck => copyNums p [.disable]
  | .gpioGetLevel => copyNums p [.level]
  | _ => pure ()

/-- `RPC_FAIL_ON_NULL`, then `RPC_ERR_IN_RESP`, then the rest of a branch. -/
def checked (rpc : Rpc) (c : Call) (body : Msg → Prog CtrlCmd Unit) : Prog CtrlCmd Unit := do
  let p ← nonNull (rpc.member (.resp c))
  if p.num .resp = 0 then body p
  else do
    setStatus (p.num .resp)
    fail

/-- The branch for `Resp_WifiScanParams` once its member says success. -/
def parseScanParams (q : Msg) : Prog CtrlCmd Unit :=
  match q.sub .config with
  | none => pure ()
  | some config => do
    let t ← load (config.sub .scanTime)
    let active ← load (t.sub .active)
    copyNums t [.passive]
    copyNums active [.min, .max]
    copyNums config [.homeChanDwellTime]

/-- One branch of the switch. The first four test another member than the id names, read
before they test, or have no branch of their own. -/
def parseResp (env : HostEnv) (rpc : Rpc) (c : Call) : Prog CtrlCmd Unit :=
  match c with
  | .wifiScanParams => do
    let q ← deref (rpc.member (.resp .wifiScanParams))
    checked rpc .wifiScanParams fun _ => parseScanParams q
  | .wifiScanGetApRecord => checked rpc .wifiScanGetApRecords fun _ => do
    let q ← deref (rpc.member (.resp .wifiScanGetApRecord))
    let r ← load (q.sub .apRecord)
    let x ← rpcCopyApRecord r
    setU fun _ => x
  | .wifiStaItwtSendProbeReq => checked rpc .wifiStaItwtSuspend fun _ => pure ()
  | .wifiSetBand | .wifiSetBandMode => checked rpc .wifiSetCountryCode fun _ => pure ()
  | .getDhcpDnsStatus => fail
  | c => checked rpc c (parseRespBody env c)

/-- `rpc_parse_rsp` up to its last two returns. -/
def parseRspBody (env : HostEnv) (rpc : Rpc) : Prog CtrlCmd Unit := do
  modify fun a => { a with
    msgType := typeResp, msgId := rpc.msgId % 65536, uid := rpc.uid }
  if rpc.msgId = respBase then do
    setStatus hErrNotSup
    fail
  else
    match respCall rpc.msgId with
    | none => fail
    | some c => parseResp env rpc c
  setStatus hOk

/-- `rpc_parse_rsp`. Both ways out return `H_OK`. -/
def rpcParseRsp (env : HostEnv) (rpc : Rpc) : Prog CtrlCmd Int := do
  let _ ← attempt (parseRspBody env rpc)
  pure hOk

end EspHosted.Codec
