import EspHosted.Codec.ParseRsp

/-!
# Parsing an event on the host, and receiving a message

`rpc_parse_evt` copies a decoded event into a zeroed `ctrl_cmd_t`, and `rpc_event_callback` hands
the result on. Most branches test their member of the payload union before they read it. Those
of the provisioning events do not, and five branches take the status out of the member of
another event. The lines a branch logs are left out, and so is the user's callback for custom
events, which gets the data as it was decoded.

`process_rpc_rx_msg` is where every decoded message arrives. It parses responses, and those
events that have a callback; other messages it drops. What the user's callbacks and the thread
that waits for a response do with the result is not part of it.
-/

namespace EspHosted.Codec

open Checked Checked.Prog

/-- `h_rpc_wire_event_to_host`, with `-1` for an event that is ignored. -/
def hRpcWireEventToHost (wireId : Int) : Int :=
  match wireId with
  | 0 => 0
  | 1 => 1
  | 2 => 2
  | 3 => 3
  | 4 => 4
  | 5 => 5
  | 6 => 12
  | 12 => 6
  | 13 => 7
  | 14 => 8
  | 15 => 9
  | 28 => 14
  | 29 => 15
  | 30 => 17
  | 31 => 16
  | 40 => 13
  | _ => -1

/-- A copy of as many bytes as arrived that is made even when there are none. -/
def memcpyToU (f : Field) (room : Nat) (src : List UInt8) : Prog CtrlCmd Unit := do
  let b ← memcpy room src src.length
  setU (·.setBuf f b)

/-- `RPC_FAIL_ON_NULL_PRINT` on the data of a string, then its copy. -/
def copyNonNull (f : Field) (room : Nat) (src : List UInt8) : Prog CtrlCmd Unit := do
  need (src ≠ [])
  memcpyToU f room src

/-! ## The branches -/

/-- The branches for `Event_AP_StaConnected` and `Event_AP_StaDisconnected`. -/
def parseApSta (p : Msg) (fs : List Field) : Prog CtrlCmd Unit := do
  setStatus (p.num .resp)
  if p.num .resp = 0 then copyNonNull .mac 6 (p.bytes .mac)
  else pure ()
  copyNums p fs

/-- The branch for `Event_StaItwtSetup`. -/
def parseItwtSetup (p : Msg) : Prog CtrlCmd Unit := do
  setStatus (p.num .resp)
  let config ← load (p.sub .config)
  let bits := config.num .bitmask1
  setU fun r => r.setNum .trigger (hGetBit 0 bits) |>.setNum .flowType (hGetBit 1 bits)
    |>.setNum .flowId (bits / 4 % 8) |>.setNum .wakeInvlExpn (bits / 32 % 32)
    |>.setNum .wakeDurationUnit (hGetBit 10 bits)
  copyNums config [.setupCmd, .minWakeDura, .wakeInvlMant, .twtId, .timeoutTimeMs]
  copyNums p [.status, .reason, .targetWakeTime]

/-- The branch for `Event_StaItwtSuspend`. -/
def parseItwtSuspend (p : Msg) : Prog CtrlCmd Unit := do
  let times := p.words .actualSuspendTimeMs
  setStatus (p.num .resp)
  copyNums p [.status, .flowIdBitmap]
  let words ← takeEach pure (min 8 times.length) times
  note (.list times.length times.length 8 words.length)
  modify fun a => { a with words := words }

/-- The branches for `Event_StaConnected` and `Event_StaDisconnected` behind their tests. -/
def parseStaEvent (q : Msg) (resp : Int) (fs : List Field) : Prog CtrlCmd Unit := do
  setStatus resp
  if resp = 0 then do
    copyNonNull .ssid 32 (q.bytes .ssid)
    copyNums q [.ssidLen]
    copyNonNull .bssid 6 (q.bytes .bssid)
    copyNums q fs
  else pure ()

/-- The branch for `Event_DhcpDnsStatus`. -/
def parseDhcpDns (p : Msg) : Prog CtrlCmd Unit := do
  setStatus (p.num .resp)
  copyNums p [.iface, .dhcpUp, .dnsUp, .dnsType, .netLinkUp]
  memcpyToU .dhcpIp 64 (p.bytes .dhcpIp)
  memcpyToU .dhcpNm 64 (p.bytes .dhcpNm)
  memcpyToU .dhcpGw 64 (p.bytes .dhcpGw)
  memcpyToU .dnsIp 64 (p.bytes .dnsIp)

/-- The branch for `Event_MemMonitor`. -/
def parseMemEvent (p : Msg) : Prog CtrlCmd Unit := do
  needMemInfo p
  copyNums p [.currTotalFreeHeapSize, .currMinFreeHeapSize]
  let words ← memInfo p
  modify fun a => { a with words := words }

/-- The URI of `Event_SuppDppUriReady` and `Event_WifiDppUriReady`, when it fits. -/
def parseUri (env : HostEnv) (p : Msg) : Prog CtrlCmd Unit := do
  let len := (p.bytes .qrcode).length
  if len ≤ env.uriLenMax then do
    let uri ← memcpy env.uriLenMax (p.bytes .qrcode) len
    setU fun r => r.setBuf .uri uri |>.setNum .uriDataLen len
  else setU (·.setNum .uriDataLen 0)

/-- The configuration of `Event_SuppDppCfgRecvd` and `Event_WifiDppCfgRecvd`, through
`rpc_copy_dpp_sta_config_to_host`. -/
def parseDppConfig (p : Msg) : Prog CtrlCmd Unit := do
  let cfg ← load (p.sub .cfg)
  match cfg.unionMember .sta with
  | .null => pure ()
  | sta => do
    let q ← deref sta
    rpcCopyWifiStaConfig q

/-- What a branch does with its member. -/
def parseEvtBody (env : HostEnv) (rpc : Rpc) (e : Event) (p : Msg) : Prog CtrlCmd Unit :=
  match e with
  | .espInit => copyNums p [.cpResetReason]
  | .heartbeat => copyNums p [.hbNum]
  | .apStaConnected => parseApSta p [.aid, .isMeshChild]
  | .apStaDisconnected => parseApSta p [.aid, .isMeshChild, .reason]
  | .staItwtSetup => parseItwtSetup p
  | .staItwtTeardown => do
    setStatus (p.num .resp)
    copyNums p [.flowId, .status]
  | .staItwtSuspend => parseItwtSuspend p
  | .staItwtProbe => do
    setStatus (p.num .resp)
    copyNums p [.status, .reason]
  | .wifiEventNoArgs => do
    setStatus (p.num .resp)
    setU (·.setNum .hEventId (hRpcWireEventToHost (p.num .eventId)))
  | .staScanDone => do
    setStatus (p.num .resp)
    let q ← load (p.sub .scanDone)
    copyNums q [.status, .number, .scanId]
  | .staConnected => do
    need (p.sub .staConnected).isSome
    let q ← load (p.sub .staConnected)
    parseStaEvent q (p.num .resp) [.channel, .authmode, .aid]
  | .staDisconnected => do
    need (p.sub .staDisconnected).isSome
    let q ← load (p.sub .staDisconnected)
    -- the status is taken out of another event's member
    let w ← deref (rpc.member (.event .staConnected))
    parseStaEvent q (w.num .resp) [.reason, .rssi]
  | .dhcpDnsStatus => parseDhcpDns p
  | .memMonitor => parseMemEvent p
  | .suppDppUriReady | .wifiDppUriReady => parseUri env p
  | .suppDppCfgRecvd | .wifiDppCfgRecvd => parseDppConfig p
  | .suppDppFail | .wifiDppFail => copyNums p [.reason]
  | .customRpc => setStatus (p.num .resp)

/-- A branch that takes the status out of the member of the event `other` and the rest out of its
own one, and tests neither. -/
def untestedEvt (env : HostEnv) (rpc : Rpc) (other e : Event) : Prog CtrlCmd Unit := do
  let w ← deref (rpc.member (.event other))
  setStatus (w.num .resp)
  let p ← deref (rpc.member (.event e))
  parseEvtBody env rpc e p

/-- One branch of the switch. All but six test their member first. -/
def parseEvt (env : HostEnv) (rpc : Rpc) (e : Event) : Prog CtrlCmd Unit :=
  match e with
  | .suppDppUriReady => untestedEvt env rpc .suppDppUriReady .suppDppUriReady
  | .suppDppCfgRecvd => untestedEvt env rpc .suppDppUriReady .suppDppCfgRecvd
  | .suppDppFail => untestedEvt env rpc .suppDppFail .suppDppFail
  | .wifiDppUriReady => untestedEvt env rpc .suppDppUriReady .wifiDppUriReady
  | .wifiDppCfgRecvd => untestedEvt env rpc .suppDppUriReady .wifiDppCfgRecvd
  | .wifiDppFail => untestedEvt env rpc .suppDppFail .wifiDppFail
  | e => do
    let p ← nonNull (rpc.member (.event e))
    parseEvtBody env rpc e p

/-- `rpc_parse_evt`. -/
def rpcParseEvt (env : HostEnv) (rpc : Rpc) : Prog CtrlCmd Int := do
  modify fun a => { a with
    msgType := typeEvent, msgId := rpc.msgId % 65536, respEventStatus := hOk }
  let ok ← attempt (match eventOf rpc.msgId with
    | none => fail
    | some e => parseEvt env rpc e)
  if ok then pure hOk
  else do
    setStatus hFail
    pure hFail

/-! ## Receiving a message -/

/-- `rpc_event_callback`, as far as it reads strings: the URI is copied up to its end for the
thread that serves the supplicant's events. -/
def rpcEventCallback (env : HostEnv) (id : Nat) : Prog CtrlCmd Unit :=
  if id = Event.suppDppUriReady.id ∧ env.suppQueue = true then do
    let a ← get
    note (.strlen env.uriLenMax (a.u.buf .uri))
    if env.malloc then
      note (.copy (strlen (a.u.buf .uri) + 1) env.uriLenMax (strlen (a.u.buf .uri) + 1))
    else pure ()
  else pure ()

/-- `is_event_callback_registered`. -/
def isEventCallbackRegistered (env : HostEnv) (id : Nat) : Bool :=
  match eventOf id with
  | none => false
  | some e => env.registered e

/-- `process_rpc_rx_msg`, for a message that has been decoded. -/
def processRpcRxMsg (env : HostEnv) (rpc : Rpc) : Prog CtrlCmd Unit :=
  if rpc.msgType = typeEvent then
    if isEventCallbackRegistered env rpc.msgId = true ∧ env.callocCmd = true then do
      let r ← rpcParseEvt env rpc
      if r = hOk then rpcEventCallback env rpc.msgId else pure ()
    else pure ()
  else if rpc.msgType = typeResp then
    if env.callocCmd then do
      let _ ← rpcParseRsp env rpc
    else pure ()
  else pure ()

end EspHosted.Codec
