import EspHosted.Codec.EndToEnd

/-!
# Composing a request on the host

`compose_rpc_req` fills in the payload of a request out of the arguments that the application left
in its `ctrl_cmd_t`. Every buffer that it allocates goes on a list of handles, which are freed
after the request was sent. Bytes are not copied: the payload points to those of the application,
and `rpc__pack` reads them, so a length that is larger than what is there shows as a fault here.

All features are taken to be compiled in. Of the numbers only those are followed that a handler of
the co-processor looks at, and log output is left out.

* `composeRpcReq`: the payload for a request, or the status that says why there is none;
* `registered_composeRpcReq`: what is allocated is freed later, and a failure has a status.
-/

namespace EspHosted.Codec

open Checked Checked.Prog

/-! ## Filling in a request -/

def ReqMsg.withNum (p : ReqMsg) (f : ReqField) (x : Int) : ReqMsg :=
  { p with num := Function.update p.num f x }

def ReqMsg.withNums (p : ReqMsg) (num : ReqField → Int) (fs : List ReqField) : ReqMsg :=
  fs.foldl (fun p f => p.withNum f (num f)) p

def ReqMsg.withBytes (p : ReqMsg) (f : ReqField) (b : List UInt8) : ReqMsg :=
  { p with bytes := Function.update p.bytes f b }

def ReqMsg.withSub (p : ReqMsg) (f : ReqField) (q : ReqMsg) : ReqMsg :=
  { p with sub := Function.update p.sub f (some q) }

/-- A change of the message behind a field. -/
def ReqMsg.inside (f : ReqField) (g : ReqMsg → ReqMsg) (p : ReqMsg) : ReqMsg :=
  { p with sub := Function.update p.sub f ((p.sub f).map g) }

/-- A change of the message in the union. -/
def ReqMsg.insideOneof (g : ReqMsg → ReqMsg) (p : ReqMsg) : ReqMsg :=
  { p with oneof := p.oneof.map fun x => (x.1, g x.2) }

section Fields

variable (p : ReqMsg) (f g : ReqField)

@[simp] theorem ReqMsg.withNum_bytes (x : Int) : (p.withNum f x).bytes = p.bytes := rfl
@[simp] theorem ReqMsg.withNum_sub (x : Int) : (p.withNum f x).sub = p.sub := rfl

@[simp] theorem ReqMsg.withNum_num (x : Int) :
    (p.withNum f x).num g = if g = f then x else p.num g := by
  simp [ReqMsg.withNum, Function.update_apply]

@[simp] theorem ReqMsg.withBytes_num (b : List UInt8) : (p.withBytes f b).num = p.num := rfl
@[simp] theorem ReqMsg.withBytes_sub (b : List UInt8) : (p.withBytes f b).sub = p.sub := rfl

@[simp] theorem ReqMsg.withBytes_bytes (b : List UInt8) :
    (p.withBytes f b).bytes g = if g = f then b else p.bytes g := by
  simp [ReqMsg.withBytes, Function.update_apply]

@[simp] theorem ReqMsg.withSub_num (q : ReqMsg) : (p.withSub f q).num = p.num := rfl

@[simp] theorem ReqMsg.withSub_sub (q : ReqMsg) :
    (p.withSub f q).sub g = if g = f then some q else p.sub g := by
  simp [ReqMsg.withSub, Function.update_apply]

@[simp] theorem ReqMsg.inside_num (h : ReqMsg → ReqMsg) : (p.inside f h).num = p.num := rfl

@[simp] theorem ReqMsg.inside_sub (h : ReqMsg → ReqMsg) :
    (p.inside f h).sub g = if g = f then (p.sub f).map h else p.sub g := by
  simp [ReqMsg.inside, Function.update_apply]

/-- Bytes that were not there yet can stay away. -/
theorem ReqMsg.withBytes_nil (h : p.bytes f = []) : p.withBytes f [] = p := by
  unfold ReqMsg.withBytes
  rw [← h, Function.update_eq_self]
  cases p
  rfl

variable (num : ReqField → Int) (fs : List ReqField)

@[simp] theorem ReqMsg.withNums_bytes : (p.withNums num fs).bytes = p.bytes := by
  unfold ReqMsg.withNums
  induction fs generalizing p with
  | nil => rfl
  | cons g fs ih => exact ih (p.withNum g (num g))

@[simp] theorem ReqMsg.withNums_sub : (p.withNums num fs).sub = p.sub := by
  unfold ReqMsg.withNums
  induction fs generalizing p with
  | nil => rfl
  | cons g fs ih => exact ih (p.withNum g (num g))

end Fields

namespace Compose

/-- The arguments of a request, by the names of the fields that they become. A pointer is `NULL` or
points to so many bytes, and `part` has the numbers of the structures inside. -/
structure AppReq where
  msgId : Nat
  uid : Nat
  num : ReqField → Int := fun _ => 0
  part : ReqField → ReqField → Int := fun _ _ => 0
  ptr : ReqField → Option (List UInt8) := fun _ => none
  arr : ReqField → List UInt8 := fun _ => []

/-- What an allocation is for: the payload, or the message behind a field. -/
inductive Piece
  | payload
  | elem (f : ReqField)

/-- A request on its way. `handles` is `rpc_free_buff_hdls`. -/
structure Draft where
  payload : Option (Member × ReqMsg) := none
  allocated : List Piece := []
  handles : List Piece := []
  failureStatus : Int := 0

abbrev Composer (α : Type) : Type := Prog Draft α

def maxFreeBuffHandles : Nat := 20

def rpcErrUnsupportedMsg : Int := 0x2f07
def rpcErrIncorrectArg : Int := 0x2f08

/-- Return `H_FAIL` with a status. -/
def failWith (status : Int) : Composer Unit := do
  modify fun d => { d with failureStatus := status }
  fail

/-- Change the payload of the request. -/
def edit (f : ReqMsg → ReqMsg) : Composer Unit :=
  modify fun d => { d with payload := d.payload.map fun x => (x.1, f x.2) }

/-- `ADD_RPC_BUFF_TO_FREE_LATER`, which leaves without a status when the list is full. -/
def addRpcBuffToFreeLater (b : Piece) : Composer Unit := do
  let d ← Prog.get
  need (d.handles.length + 1 ≤ maxFreeBuffHandles)
  modify fun d => { d with handles := d.handles ++ [b] }

/-- What `rpc__pack` reads of `n` bytes. -/
def readBytes (b : List UInt8) (n : Nat) : Composer (List UInt8) :=
  if n ≤ b.length then pure (b.take n) else fault .outside

/-- The search for the end of a string. -/
def cLen (b : List UInt8) : Composer Nat :=
  if 0 ∈ b then pure (strlen b) else fault .outside

/-- `RPC_REQ_COPY_BYTES` -/
def rpcReqCopyBytes (src : Option (List UInt8)) (size : Nat)
    (attach : List UInt8 → ReqMsg → ReqMsg) : Composer Unit :=
  match src with
  | none => pure ()
  | some b =>
    if size = 0 then pure ()
    else do
      let bytes ← readBytes b size
      edit (attach bytes)

/-- `RPC_REQ_COPY_STR` of an array. -/
def rpcReqCopyStr (b : List UInt8) (maxSize : Nat) (attach : List UInt8 → ReqMsg → ReqMsg) :
    Composer Unit := do
  let len ← cLen b
  rpcReqCopyBytes (some b) (min (len + 1) maxSize) attach

/-- A string that is copied with its end. The pointer is not tested. -/
def copyString (src : Option (List UInt8)) (attach : List UInt8 → ReqMsg → ReqMsg) :
    Composer Unit :=
  match src with
  | none => fault .null
  | some b => do
    let len ← cLen b
    rpcReqCopyBytes (some b) (len + 1) attach

/-- An `int` as it is given, and as a `size_t`. -/
def int32 (x : Int) : Int := Int.bmod x 4294967296

def sizeT (x : Int) : Nat := (u32 x).toNat

section Cases

variable (calloc : Piece → Bool) (a : AppReq)

def allocate (b : Piece) : Composer Unit :=
  if calloc b then modify fun d => { d with allocated := d.allocated ++ [b] }
  else failWith rpcErrMemoryFailure

/-- `RPC_ALLOC_ASSIGN` -/
def rpcAllocAssign (c : Call) : Composer Unit := do
  allocate calloc .payload
  modify fun d => { d with payload := some (.req c, {}) }
  addRpcBuffToFreeLater .payload

/-- `RPC_ALLOC_ELEMENT` -/
def rpcAllocElement (f : ReqField) (attach : ReqMsg → ReqMsg) : Composer Unit := do
  allocate calloc (.elem f)
  addRpcBuffToFreeLater (.elem f)
  edit attach

/-- A message behind a field of the payload, with its numbers. -/
def element (f : ReqField) (fs : List ReqField) : Composer Unit := do
  rpcAllocElement calloc f (·.withSub f {})
  edit (.inside f (·.withNums (a.part f) fs))

/-! ## The cases -/

/-- A case that assigns numbers, and has `body` for the rest. -/
def assign (c : Call) (fs : List ReqField) (body : Composer Unit) : Composer Unit := do
  rpcAllocAssign calloc c
  edit (·.withNums a.num fs)
  body

/-- `H_WIFI_MODE_NULL` is 0 and `H_WIFI_MODE_NAN` is 4. -/
def setWifiMode : Composer Unit := do
  rpcAllocAssign calloc .setWifiMode
  if a.num .mode < 0 ∨ 4 < a.num .mode then failWith rpcErrIncorrectArg
  else edit (·.withNums a.num [.mode])

def otaWrite : Composer Unit := do
  rpcAllocAssign calloc .otaWrite
  if a.ptr .otaData = none ∨ sizeT (a.num .len) = 0 then failWith rpcErrIncorrectArg
  else rpcReqCopyBytes (a.ptr .otaData) (sizeT (a.num .len)) fun b p => p.withBytes .otaData b

/-- The configuration of a scan, with its times. -/
def scanConfig : Composer Unit := do
  rpcAllocElement calloc .config (·.withSub .config {})
  rpcAllocElement calloc .scanTime (.inside .config (·.withSub .scanTime {}))
  rpcAllocElement calloc .active (.inside .config (.inside .scanTime (·.withSub .active {})))

def wifiScanParams : Composer Unit :=
  assign calloc a .wifiScanParams [.cmd]
    (if a.num .isConfigNull = 0 then do
      scanConfig calloc
      edit (·.withNum .isConfigNull 0)
    else edit (·.withNum .isConfigNull 1))

/-- `h_rpc_mac_is_set` -/
def hRpcMacIsSet (mac : List UInt8) : Bool := (mac.take 6).any (· ≠ 0)

/-- The configuration of the station. -/
def staConfig : Composer Unit := do
  let sta (g : ReqMsg → ReqMsg) : ReqMsg → ReqMsg := .inside .cfg (.insideOneof g)
  let bssidSet := hRpcMacIsSet (a.arr .bssid)
  rpcAllocElement calloc .sta (.inside .cfg fun cfg => { cfg with oneof := some (.sta, {}) })
  rpcReqCopyStr (a.arr .ssid) 32 fun b => sta (·.withBytes .ssid b)
  rpcReqCopyStr (a.arr .password) 64 fun b => sta (·.withBytes .password b)
  edit (sta (·.withNum .bssidSet (if bssidSet then 1 else 0)))
  rpcReqCopyBytes (if bssidSet then some (a.arr .bssid) else none) 6 fun b =>
    sta (·.withBytes .bssid b)
  rpcAllocElement calloc .pmfCfg (sta (·.withSub .pmfCfg {}))

/-- The configuration of the soft AP. -/
def apConfig : Composer Unit := do
  let ap (g : ReqMsg → ReqMsg) : ReqMsg → ReqMsg := .inside .cfg (.insideOneof g)
  rpcAllocElement calloc .ap (.inside .cfg fun cfg => { cfg with oneof := some (.ap, {}) })
  rpcReqCopyStr (a.arr .ssid) 32 fun b => ap (·.withBytes .ssid b)
  rpcReqCopyStr (a.arr .password) 64 fun b => ap (·.withBytes .password b)

/-- For another interface the union stays empty. -/
def wifiSetConfig : Composer Unit :=
  assign calloc a .wifiSetConfig [.iface] do
    rpcAllocElement calloc .cfg (·.withSub .cfg {})
    if a.num .iface = 0 then staConfig calloc a
    else if a.num .iface = 1 then apConfig calloc a
    else pure ()

/-- How much of the SSID of a scan is sent. -/
def ssidSize (b : List UInt8) : Composer Nat :=
  if a.num .len ≠ 0 then pure (sizeT (a.num .len))
  else do
    let len ← cLen b
    pure (min (len + 1) 32)

def scanSsid : Composer Unit :=
  match a.ptr .ssid with
  | none => pure ()
  | some b => do
    let size ← ssidSize a b
    rpcReqCopyBytes (some b) (min size 32) fun b => .inside .config (·.withBytes .ssid b)

def wifiScanStart : Composer Unit :=
  assign calloc a .wifiScanStart []
    (if a.num .configSet ≠ 0 then do
      scanConfig calloc
      scanSsid a
      rpcReqCopyBytes (a.ptr .bssid) 6 fun b => .inside .config (·.withBytes .bssid b)
      edit (·.withNum .configSet 1)
    else pure ())

/-- `FEATURE_BT` is the only feature that is passed on, with its four commands. -/
def featureControl : Composer Unit := do
  rpcAllocAssign calloc .featureControl
  let command := a.num .command
  edit fun p => p.withNum .feature (if a.num .feature = 1 then 1 else 0)
    |>.withNum .command (if 1 ≤ command ∧ command ≤ 4 then command else 0)
    |>.withNum .option (if a.num .option = 1 then 1 else 0)

def ifaceMacAddrSetGet : Composer Unit :=
  assign calloc a .ifaceMacAddrSetGet [.set, .type]
    (rpcReqCopyBytes (if a.num .set ≠ 0 then some (a.arr .mac) else none) (sizeT (a.num .len))
      fun b p => p.withBytes .mac b)

def setDhcpDnsStatus : Composer Unit :=
  assign calloc a .setDhcpDnsStatus [.iface, .dhcpUp, .dnsUp] do
    rpcReqCopyStr (a.arr .dhcpIp) 64 fun b p => p.withBytes .dhcpIp b
    rpcReqCopyStr (a.arr .dhcpNm) 64 fun b p => p.withBytes .dhcpNm b
    rpcReqCopyStr (a.arr .dhcpGw) 64 fun b p => p.withBytes .dhcpGw b
    rpcReqCopyStr (a.arr .dnsIp) 64 fun b p => p.withBytes .dnsIp b

def memMonitor : Composer Unit := do
  rpcAllocAssign calloc .memMonitor
  element calloc a .internal [.thresholdMemDma, .thresholdMem8bit]
  element calloc a .external [.thresholdMemDma, .thresholdMem8bit]
  let config := a.num .config
  edit (·.withNum .config (if 0 ≤ config ∧ config ≤ 2 then config else 0))
  edit (·.withNums a.num [.reportAlways, .intervalSec])

/-- Bytes with a separate length. -/
def copyText (src f lenSrc lenField : ReqField) : Composer Unit := do
  rpcReqCopyBytes (a.ptr src) (sizeT (a.num lenSrc)) fun b p => p.withBytes f b
  edit (·.withNum lenField (int32 (a.num lenSrc)))

def eapSetCertificateAndKey : Composer Unit :=
  assign calloc a .eapSetCertificateAndKey [] do
    copyText a .clientCert .clientCert .clientCertLen .clientCertLen
    copyText a .privateKey .privateKey .privateKeyLen .privateKeyLen
    copyText a .privateKeyPassword .privateKeyPassword .privateKeyPasswdLen .privateKeyPasswdLen

/-- The key has `DPP_BOOTSTRAP_GEN_KEY_LEN` bytes and no end. -/
def suppDppBootstrapGen : Composer Unit :=
  assign calloc a .suppDppBootstrapGen [.type] do
    copyString (a.ptr .chanList) fun b p => p.withBytes .chanList b
    rpcReqCopyBytes (a.ptr .key) 32 fun b p => p.withBytes .key b
    if a.ptr .info ≠ none then copyString (a.ptr .info) fun b p => p.withBytes .info b
    else pure ()

/-- The switch of `compose_rpc_req`. -/
def composeCall (c : Call) : Composer Unit :=
  match c with
  | .getWifiMode | .wifiGetPs | .otaBegin | .otaEnd | .otaActivate | .wifiDeinit | .wifiStart
  | .wifiStop | .wifiConnect | .wifiDisconnect | .wifiScanStop | .wifiScanGetApNum
  | .wifiClearApList | .wifiRestore | .wifiClearFastConnect | .wifiStaGetApInfo
  | .wifiGetMaxTxPower | .wifiGetChannel | .wifiGetCountryCode | .wifiGetCountry
  | .wifiApGetStaList | .wifiStaGetRssi | .wifiStaGetNegotiatedPhymode | .wifiStaGetAid
  | .wifiGetBand | .wifiGetBandMode | .appGetDesc | .wifiStaEnterpriseEnable
  | .wifiStaEnterpriseDisable | .eapClearIdentity | .eapClearUsername | .eapClearPassword
  | .eapClearNewPassword | .eapClearCaCert | .eapClearCertificateAndKey | .suppDppDeinit
  | .suppDppStartListen | .suppDppStopListen | .wifiScanGetApRecord => pure ()
  | .getDhcpDnsStatus | .eapGetDisableTimeCheck => failWith rpcErrUnsupportedMsg
  | .getMACAddress => assign calloc a c [.mode] (pure ())
  | .setMacAddress => assign calloc a c [.mode]
    (rpcReqCopyBytes (some (a.arr .mac)) 6 fun b p => p.withBytes .mac b)
  | .setWifiMode => setWifiMode calloc a
  | .otaWrite => otaWrite calloc a
  | .wifiInit => assign calloc a c [] (element calloc a .cfg [])
  | .wifiScanParams => wifiScanParams calloc a
  | .wifiSetConfig => wifiSetConfig calloc a
  | .wifiScanStart => wifiScanStart calloc a
  | .wifiSetCountryCode => assign calloc a c []
    (rpcReqCopyBytes (some (a.arr .country)) 3 fun b p => p.withBytes .country b)
  | .wifiSetCountry => assign calloc a c [] do
    element calloc a .country []
    rpcReqCopyBytes (some (a.arr .cc)) 3 fun b => .inside .country (·.withBytes .cc b)
  | .wifiApGetStaAid => assign calloc a c []
    (rpcReqCopyBytes (some (a.arr .mac)) 6 fun b p => p.withBytes .mac b)
  | .wifiStaTwtConfig => assign calloc a c [] (element calloc a .config [])
  | .wifiStaItwtSetup => assign calloc a c [] (element calloc a .setupConfig [])
  | .wifiSetProtocols => assign calloc a c [.ifx] (element calloc a .protocols [])
  | .wifiSetBandwidths => assign calloc a c [.ifx] (element calloc a .bandwidths [])
  | .ifaceMacAddrSetGet => ifaceMacAddrSetGet calloc a
  | .featureControl => featureControl calloc a
  | .setDhcpDnsStatus => setDhcpDnsStatus calloc a
  | .memMonitor => memMonitor calloc a
  | .eapSetIdentity => assign calloc a c [] (copyText a .identity .identity .len .len)
  | .eapSetUsername => assign calloc a c [] (copyText a .username .username .len .len)
  | .eapSetPassword => assign calloc a c [] (copyText a .password .password .len .len)
  | .eapSetNewPassword => assign calloc a c [] (copyText a .password .newPassword .len .len)
  | .eapSetCaCert => assign calloc a c [] (copyText a .caCert .caCert .len .caCertLen)
  | .eapSetPacFile => assign calloc a c [] (copyText a .pacFile .pacFile .len .pacFileLen)
  | .eapSetCertificateAndKey => eapSetCertificateAndKey calloc a
  | .eapSetFastParams => assign calloc a c [] (element calloc a .eapFastConfig [])
  | .eapSetDomainName => assign calloc a c []
    (copyString (a.ptr .domainName) fun b p => p.withBytes .domainName b)
  | .suppDppBootstrapGen => suppDppBootstrapGen calloc a
  | .customRpc => assign calloc a c [.customMsgId]
    (rpcReqCopyBytes (a.ptr .data) (sizeT (a.num .len)) fun b p => p.withBytes .data b)
  | .gpioConfig => assign calloc a c []
    (element calloc a .config [.pinBitMask, .intrType, .mode, .pullUpEn, .pullDownEn])
  | .wifiSetPs | .eapSetTtlsPhase2Method | .ifaceMacAddrLenGet =>
    assign calloc a c [.type] (pure ())
  | .wifiGetConfig => assign calloc a c [.iface] (pure ())
  | .wifiScanGetApRecords => assign calloc a c [.number] (pure ())
  | .wifiSetBandwidth | .wifiGetBandwidth | .wifiSetProtocol | .wifiGetProtocol
  | .wifiSetInactiveTime | .wifiGetInactiveTime | .wifiGetProtocols | .wifiGetBandwidths =>
    assign calloc a c [.ifx] (pure ())
  | .gpioResetPin | .gpioGetLevel | .gpioInputEnable => assign calloc a c [.gpioNum] (pure ())
  | .gpioSetLevel => assign calloc a c [.gpioNum, .level] (pure ())
  | .gpioSetDirection => assign calloc a c [.gpioNum, .mode] (pure ())
  | .gpioSetPullMode => assign calloc a c [.gpioNum, .pull] (pure ())
  | .extCoex => assign calloc a c
    [.cmd, .setGpioWireType, .setGpioRequestPin, .setGpioPriorityPin, .setGpioGrantPin,
      .setGpioTxLinePin, .setWorkMode, .setGrantDelayUs, .setValidateHigh] (pure ())
  -- what is left assigns numbers for the driver alone, or none
  | .wifiSetMaxTxPower | .configHeartbeat | .wifiDeauthSta | .wifiSetStorage | .wifiSetChannel
  | .getCoprocessorFwVersion | .wifiStaItwtTeardown | .wifiStaItwtSuspend
  | .wifiStaItwtGetFlowIdStatus | .wifiStaItwtSendProbeReq | .wifiStaItwtSetTargetWakeTimeOffset
  | .wifiSetBand | .wifiSetBandMode | .eapSetDisableTimeCheck | .eapSetSuitebCertification
  | .eapUseDefaultCertBundle | .wifiSetOkcSupport | .eapSetEapMethods | .suppDppInit =>
    assign calloc a c [] (pure ())

/-- `compose_rpc_req` -/
def composeRpcReq : Composer Unit :=
  match reqCall a.msgId with
  | none => failWith rpcErrUnsupportedMsg
  | some c => composeCall calloc a c

end Cases

/-! ## What is allocated is freed later -/

/-- Every buffer is on the list of handles. -/
def Registered (d : Draft) : Prop := d.handles = d.allocated

/-- The member of the payload. -/
def Draft.member (d : Draft) : Option Member := d.payload.map Prod.fst

/-- After `k` allocations or fewer. -/
structure Kept (k : Nat) (d d' : Draft) : Prop where
  registered : Registered d'
  bound : d'.handles.length ≤ d.handles.length + k

theorem Kept.trans {k l : Nat} {d d' d'' : Draft} (h : Kept k d d') (h' : Kept l d' d'') :
    Kept (k + l) d d'' where
  registered := h'.registered
  bound := by
    have hFirst := h.bound
    have hSecond := h'.bound
    omega

theorem Kept.mono {k l : Nat} {d d' : Draft} (h : Kept k d d') (hLe : k ≤ l) : Kept l d d' where
  registered := h.registered
  bound := by
    have hBound := h.bound
    omega

/-- With room for `k` more handles, `p` allocates `k` buffers or fewer and registers them, it leaves
the member of the payload as it is, and if it fails there is a status. -/
def Registers {α : Type} (k : Nat) (p : Composer α) : Prop :=
  ∀ m, Registered m.store → m.store.handles.length + k ≤ maxFreeBuffHandles →
    wp p (fun _ _ => True) (fun m' => Kept k m.store m'.store ∧ m'.store.failureStatus ≠ 0)
      (fun _ m' => Kept k m.store m'.store ∧ m'.store.member = m.store.member) m

namespace Registers

variable {α β : Type} {k l : Nat}

theorem mono {p : Composer α} (h : Registers k p) (hLe : k ≤ l) : Registers l p := by
  intro m hReg hRoom
  exact wp_mono (fun _ _ h => h) (fun _ h => ⟨h.1.mono hLe, h.2⟩)
    (fun _ _ h => ⟨h.1.mono hLe, h.2⟩) (h m hReg (by omega))

theorem bind {p : Composer α} {q : α → Composer β} (hp : Registers k p)
    (hq : ∀ a, Registers l (q a)) : Registers (k + l) (p >>= q) := by
  intro m hReg hRoom
  rw [wp_bind]
  refine wp_mono (fun _ _ h => h) (fun _ h => ⟨h.1.mono (Nat.le_add_right k l), h.2⟩)
    (fun a m' h => ?_) (hp m hReg (by omega))
  have hBound := h.1.bound
  exact wp_mono (fun _ _ h => h) (fun _ h' => ⟨h.1.trans h'.1, h'.2⟩)
    (fun _ _ h' => ⟨h.1.trans h'.1, h'.2.trans h.2⟩) (hq a m' h.1.registered (by omega))

/-- A step that allocates nothing. -/
theorem step {p : Composer α} {q : α → Composer β} (hp : Registers 0 p)
    (hq : ∀ a, Registers l (q a)) : Registers l (p >>= q) := by
  have h := hp.bind hq
  rwa [Nat.zero_add] at h

theorem pure (a : α) : Registers 0 (Pure.pure a : Composer α) :=
  fun _ hReg _ => ⟨⟨hReg, Nat.le_refl _⟩, rfl⟩

theorem fault (f : Fault) : Registers 0 (Prog.fault f : Composer α) := fun _ _ _ => trivial

theorem failWith {status : Int} (h : status ≠ 0) : Registers 0 (failWith status) :=
  fun _ hReg _ => ⟨⟨hReg, Nat.le_refl _⟩, h⟩

theorem edit (f : ReqMsg → ReqMsg) : Registers 0 (edit f) := by
  refine fun m hReg _ => ⟨⟨hReg, Nat.le_refl _⟩, ?_⟩
  unfold Draft.member
  cases hPayload : m.store.payload <;> simp [hPayload]

theorem ite {c : Prop} [Decidable c] {p q : Composer α} (hp : Registers k p)
    (hq : Registers k q) : Registers k (if c then p else q) := by
  split
  · exact hp
  · exact hq

end Registers

section Allocations

variable {calloc : Piece → Bool} {a : AppReq} {α : Type} {k : Nat}

/-- A buffer that was just allocated goes on the list. -/
theorem wp_register {b : Piece} {d : Draft} {m : Mem Draft} {E : Mem Draft → Prop}
    {Q : Unit → Mem Draft → Prop} (hReg : Registered d)
    (hRoom : d.handles.length + 1 ≤ maxFreeBuffHandles) (hNew : m.store.handles = d.handles)
    (hOld : m.store.allocated = d.allocated ++ [b])
    (h : ∀ m' : Mem Draft, Kept 1 d m'.store → m'.store.member = m.store.member → Q () m') :
    wp (addRpcBuffToFreeLater b) (fun _ _ => True) E Q m := by
  unfold addRpcBuffToFreeLater
  simp only [wp_bind, wp_get, wp_need, wp_modify, hNew, hRoom, decide_true, if_true]
  refine h _ ⟨?_, by simp⟩ rfl
  unfold Registered at hReg ⊢
  simp [hOld, hReg]

theorem registers_rpcAllocElement (f : ReqField) (attach : ReqMsg → ReqMsg) :
    Registers 1 (rpcAllocElement calloc f attach) := by
  intro m hReg hRoom
  have hStatus : rpcErrMemoryFailure ≠ 0 := by decide
  unfold rpcAllocElement allocate failWith
  simp only [wp_bind, wp_ite, wp_modify, wp_fail]
  split
  · refine wp_register hReg hRoom rfl rfl fun m' hKept hMember => ?_
    have hBound := hKept.bound
    exact wp_mono (fun _ _ h => h) (fun _ h => ⟨hKept.trans h.1, h.2⟩)
      (fun _ _ h => ⟨hKept.trans h.1, h.2.trans hMember⟩)
      (Registers.edit attach m' hKept.registered (by omega))
  · exact ⟨⟨hReg, Nat.le_succ _⟩, hStatus⟩

/-- A case of the switch with a payload, and what it leaves behind. -/
def Opens (c : Call) (k : Nat) (p : Composer Unit) : Prop :=
  ∀ m, Registered m.store → m.store.handles.length + k ≤ maxFreeBuffHandles →
    wp p (fun _ _ => True) (fun m' => Kept k m.store m'.store ∧ m'.store.failureStatus ≠ 0)
      (fun _ m' => Kept k m.store m'.store ∧ m'.store.member = some (.req c)) m

theorem opens_rpcAllocAssign (c : Call) : Opens c 1 (rpcAllocAssign calloc c) := by
  intro m hReg hRoom
  have hStatus : rpcErrMemoryFailure ≠ 0 := by decide
  unfold rpcAllocAssign allocate failWith
  simp only [wp_bind, wp_ite, wp_modify, wp_fail]
  split
  · exact wp_register hReg hRoom rfl rfl fun m' hKept hMember => ⟨hKept, hMember⟩
  · exact ⟨⟨hReg, Nat.le_succ _⟩, hStatus⟩

theorem Opens.bind {c : Call} {l : Nat} {p q : Composer Unit} (hp : Opens c k p)
    (hq : Registers l q) : Opens c (k + l) (do p; q) := by
  intro m hReg hRoom
  rw [wp_bind]
  refine wp_mono (fun _ _ h => h) (fun _ h => ⟨h.1.mono (Nat.le_add_right k l), h.2⟩)
    (fun _ m' h => ?_) (hp m hReg (by omega))
  have hBound := h.1.bound
  exact wp_mono (fun _ _ h => h) (fun _ h' => ⟨h.1.trans h'.1, h'.2⟩)
    (fun _ _ h' => ⟨h.1.trans h'.1, h'.2.trans h.2⟩) (hq m' h.1.registered (by omega))

theorem Opens.mono {c : Call} {l : Nat} {p : Composer Unit} (h : Opens c k p) (hLe : k ≤ l) :
    Opens c l p := by
  intro m hReg hRoom
  exact wp_mono (fun _ _ h => h) (fun _ h => ⟨h.1.mono hLe, h.2⟩)
    (fun _ _ h => ⟨h.1.mono hLe, h.2⟩) (h m hReg (by omega))

theorem opens_assign {c : Call} {fs : List ReqField} {body : Composer Unit}
    (h : Registers k body) : Opens c (1 + k) (assign calloc a c fs body) :=
  (opens_rpcAllocAssign c).bind ((Registers.edit _).step fun _ => h)

theorem registers_rpcReqCopyBytes (src : Option (List UInt8)) (size : Nat)
    (attach : List UInt8 → ReqMsg → ReqMsg) : Registers 0 (rpcReqCopyBytes src size attach) := by
  unfold rpcReqCopyBytes
  cases src with
  | none => exact .pure ()
  | some b => exact .ite (.pure ()) ((Registers.ite (.pure _) (.fault _)).step fun _ => .edit _)

theorem registers_cLen (b : List UInt8) : Registers 0 (cLen b) := .ite (.pure _) (.fault _)

theorem registers_rpcReqCopyStr (b : List UInt8) (maxSize : Nat)
    (attach : List UInt8 → ReqMsg → ReqMsg) : Registers 0 (rpcReqCopyStr b maxSize attach) :=
  (registers_cLen b).step fun _ => registers_rpcReqCopyBytes _ _ _

theorem registers_copyString (src : Option (List UInt8)) (attach : List UInt8 → ReqMsg → ReqMsg) :
    Registers 0 (copyString src attach) := by
  unfold copyString
  cases src with
  | none => exact .fault _
  | some b => exact (registers_cLen b).step fun _ => registers_rpcReqCopyBytes _ _ _

theorem registers_element (f : ReqField) (fs : List ReqField) :
    Registers 1 (element calloc a f fs) :=
  (registers_rpcAllocElement f _).bind fun _ => .edit _

theorem registers_scanConfig : Registers 3 (scanConfig calloc) :=
  (registers_rpcAllocElement _ _).bind fun _ => (registers_rpcAllocElement _ _).bind fun _ =>
    registers_rpcAllocElement _ _

theorem registers_copyText (src f lenSrc lenField : ReqField) :
    Registers 0 (copyText a src f lenSrc lenField) :=
  (registers_rpcReqCopyBytes _ _ _).step fun _ => .edit _

theorem registers_staConfig : Registers 2 (staConfig calloc a) :=
  (registers_rpcAllocElement _ _).bind fun _ => (registers_rpcReqCopyStr _ _ _).step fun _ =>
    (registers_rpcReqCopyStr _ _ _).step fun _ => (Registers.edit _).step fun _ =>
      (registers_rpcReqCopyBytes _ _ _).step fun _ => registers_rpcAllocElement _ _

theorem registers_apConfig : Registers 1 (apConfig calloc a) :=
  (registers_rpcAllocElement _ _).bind fun _ => (registers_rpcReqCopyStr _ _ _).step fun _ =>
    registers_rpcReqCopyStr _ _ _

theorem registers_scanSsid : Registers 0 (scanSsid a) := by
  unfold scanSsid
  cases a.ptr .ssid with
  | none => exact .pure ()
  | some b =>
    exact (Registers.ite (.pure _) ((registers_cLen b).step fun _ => .pure _)).step fun _ =>
      registers_rpcReqCopyBytes _ _ _

/-- A call that has a case of its own in the switch, and a payload for its request. -/
def hasPayload : Call → Bool
  | .getWifiMode | .wifiGetPs | .otaBegin | .otaEnd | .otaActivate | .wifiDeinit | .wifiStart
  | .wifiStop | .wifiConnect | .wifiDisconnect | .wifiScanStop | .wifiScanGetApNum
  | .wifiClearApList | .wifiRestore | .wifiClearFastConnect | .wifiStaGetApInfo
  | .wifiGetMaxTxPower | .wifiGetChannel | .wifiGetCountryCode | .wifiGetCountry
  | .wifiApGetStaList | .wifiStaGetRssi | .wifiStaGetNegotiatedPhymode | .wifiStaGetAid
  | .wifiGetBand | .wifiGetBandMode | .appGetDesc | .wifiStaEnterpriseEnable
  | .wifiStaEnterpriseDisable | .eapClearIdentity | .eapClearUsername | .eapClearPassword
  | .eapClearNewPassword | .eapClearCaCert | .eapClearCertificateAndKey | .suppDppDeinit
  | .suppDppStartListen | .suppDppStopListen | .wifiScanGetApRecord
  | .getDhcpDnsStatus | .eapGetDisableTimeCheck => false
  | _ => true

/-- Every case with a payload. None needs more than four buffers. -/
theorem opens_composeCall {c : Call} (h : hasPayload c = true) :
    Opens c 4 (composeCall calloc a c) := by
  cases c
  case setWifiMode =>
    exact ((opens_rpcAllocAssign _).bind (.ite (.failWith (by decide)) (.edit _))).mono (by decide)
  case otaWrite =>
    exact ((opens_rpcAllocAssign _).bind (.ite (.failWith (by decide))
      (registers_rpcReqCopyBytes _ _ _))).mono (by decide)
  case wifiScanParams =>
    exact opens_assign (.ite ((registers_scanConfig).bind fun _ => .edit _)
      ((Registers.edit _).mono (by decide)))
  case wifiSetConfig =>
    exact opens_assign ((registers_rpcAllocElement _ _).bind fun _ => .ite registers_staConfig
      (.ite (registers_apConfig.mono (by decide)) ((Registers.pure ()).mono (by decide))))
  case wifiScanStart =>
    exact opens_assign (.ite (registers_scanConfig.bind fun _ => registers_scanSsid.step fun _ =>
      (registers_rpcReqCopyBytes _ _ _).step fun _ => .edit _)
        ((Registers.pure ()).mono (by decide)))
  case featureControl =>
    exact ((opens_rpcAllocAssign _).bind (.edit _)).mono (by decide)
  case memMonitor =>
    exact ((opens_rpcAllocAssign _).bind ((registers_element _ _).bind fun _ =>
      (registers_element _ _).bind fun _ => (Registers.edit _).step fun _ => .edit _)).mono
        (by decide)
  case setDhcpDnsStatus =>
    exact (opens_assign ((registers_rpcReqCopyStr _ _ _).step fun _ =>
      (registers_rpcReqCopyStr _ _ _).step fun _ => (registers_rpcReqCopyStr _ _ _).step fun _ =>
        registers_rpcReqCopyStr _ _ _)).mono (by decide)
  case eapSetCertificateAndKey =>
    exact (opens_assign ((registers_copyText _ _ _ _).step fun _ =>
      (registers_copyText _ _ _ _).step fun _ => registers_copyText _ _ _ _)).mono (by decide)
  case suppDppBootstrapGen =>
    exact (opens_assign ((registers_copyString _ _).step fun _ =>
      (registers_rpcReqCopyBytes _ _ _).step fun _ =>
        .ite (registers_copyString _ _) (.pure ()))).mono (by decide)
  case wifiSetCountry =>
    exact (opens_assign ((registers_element _ _).bind fun _ =>
      registers_rpcReqCopyBytes _ _ _)).mono (by decide)
  case wifiInit | wifiStaTwtConfig | wifiStaItwtSetup | wifiSetProtocols | wifiSetBandwidths
      | eapSetFastParams | gpioConfig =>
    exact (opens_assign (registers_element _ _)).mono (by decide)
  case eapSetIdentity | eapSetUsername | eapSetPassword | eapSetNewPassword | eapSetCaCert
      | eapSetPacFile =>
    exact (opens_assign (registers_copyText _ _ _ _)).mono (by decide)
  case setMacAddress | wifiSetCountryCode | wifiApGetStaAid | ifaceMacAddrSetGet | customRpc =>
    exact (opens_assign (registers_rpcReqCopyBytes _ _ _)).mono (by decide)
  case eapSetDomainName => exact (opens_assign (registers_copyString _ _)).mono (by decide)
  all_goals first
    | exact (opens_assign (.pure ())).mono (by decide)
    | cases h

/-- The calls without a payload need no buffer, and two are not known. -/
theorem composeCall_plain (calloc : Piece → Bool) (a : AppReq) {c : Call}
    (h : hasPayload c = false) :
    composeCall calloc a c = pure () ∨ composeCall calloc a c = failWith rpcErrUnsupportedMsg := by
  cases c <;> first
    | exact .inl rfl
    | exact .inr rfl
    | cases h

/-- Whatever becomes of a request, every buffer that was allocated for it is on the list of handles,
which never gets full; a request that cannot be composed has a status, and one that can has the
payload of its id, or none if its call takes none. -/
theorem registered_composeRpcReq (calloc : Piece → Bool) (a : AppReq) :
    wp (composeRpcReq calloc a) (fun _ _ => True)
      (fun m => m.store.handles = m.store.allocated ∧ m.store.handles.length ≤ 4 ∧
        m.store.failureStatus ≠ 0)
      (fun _ m => m.store.handles = m.store.allocated ∧ m.store.handles.length ≤ 4 ∧
        ∃ c, reqCall a.msgId = some c ∧
          m.store.payload.map Prod.fst = if hasPayload c then some (.req c) else none)
      { store := {} } := by
  have hUnsupported : rpcErrUnsupportedMsg ≠ 0 := by decide
  unfold composeRpcReq
  cases hCall : reqCall a.msgId with
  | none => exact ⟨rfl, Nat.zero_le _, hUnsupported⟩
  | some c =>
    change wp (composeCall calloc a c) _ _ _ _
    cases hPayload : hasPayload c with
    | false =>
      rcases composeCall_plain calloc a hPayload with hNone | hFail
      · rw [hNone]
        exact ⟨rfl, Nat.zero_le _, c, rfl, by rw [hPayload]; rfl⟩
      · rw [hFail]
        exact ⟨rfl, Nat.zero_le _, hUnsupported⟩
    | true =>
      refine wp_mono (fun _ _ h => h) (fun m h => ?_) (fun _ m h => ?_)
        (opens_composeCall hPayload { store := {} } rfl (by decide))
      all_goals
        have hBound := h.1.bound
        simp only [List.length_nil, Nat.zero_add] at hBound
      · exact ⟨h.1.registered, hBound, h.2⟩
      · exact ⟨h.1.registered, hBound, c, rfl, by rw [hPayload]; exact h.2⟩

end Allocations

end Compose

end EspHosted.Codec
