import EspHosted.Codec.Reply
import EspHosted.Codec.EvtAccess

/-!
# Events, end to end

`rpc_evt_handler` turns an event of the co-processor into a message for the host. Each event has a
handler that fills in a payload out of what the driver reported. Most of them send what they have
when an allocation fails, with an error in the payload; the ones for a memory report and for the
configuration that a DPP exchange brought send nothing then. Log output is left out.

* `rpcEvtHandler`: the message for an event, if there is one;
* `inBounds_event`: which events the host receives without harm. Four are never, because their
  branch reads the member of another event; a disconnection is only if the co-processor lacked the
  memory to tell of it, and the end of a scan or an iTWT setup only if it had it.
-/

namespace EspHosted.Codec

open Checked Checked.Prog

/-! ## The co-processor -/

section Handlers

variable (env : CpEnv) (times : List Int)

/-- `NTFY_TEMPLATE`, and whether the message is sent. With `strict` it is not if the handler
leaves early. -/
def ntfyTemplate (strict : Bool) (body : Handler Unit) : Handler Bool := do
  let isNew ← attempt (newResp env)
  if isNew then do
    let done ← attempt body
    pure (done || !strict)
  else pure false

/-- A station's address and numbers. -/
def ntfyApSta (fs : List Field) : Handler Unit := do
  rpcRespCopyBytes env .mac 0 (env.out.buf .mac) 6 fun b p => p.withBytes .mac b
  edit (·.withNums env.out fs)

/-- The part of a payload that tells of a connection. -/
def ntfyConnection (f : Field) (fs : List Field) : Handler Unit := do
  rpcAllocElement env f 0 (·.withSub f {})
  rpcRespCopyBytes env .ssid 0 (env.out.buf .ssid) 32 fun b => .inside f (·.withBytes .ssid b)
  edit (.inside f (·.withNums env.out [.ssidLen]))
  rpcRespCopyBytes env .bssid 0 (env.out.buf .bssid) 6 fun b => .inside f (·.withBytes .bssid b)
  edit (.inside f (·.withNums env.out fs))

/-- `bitmask_1` of an iTWT setup, with its five reserved bits. -/
def itwtBits (r : Rec) : Int :=
  (if r.num .trigger = 0 then 0 else 1) + (if r.num .flowType = 0 then 0 else 2) +
    r.num .flowId % 8 * 4 + r.num .wakeInvlExpn % 32 * 32 +
    (if r.num .wakeDurationUnit = 0 then 0 else 1024) + r.num .reserved % 32 * 2048

def rpcEvtItwtSetup : Handler Unit := do
  rpcAllocElement env .config 0 (·.withSub .config {})
  edit (.inside .config fun q => q.withNums env.out
    [.setupCmd, .minWakeDura, .wakeInvlMant, .twtId, .timeoutTimeMs]
      |>.withNum .bitmask1 (itwtBits env.out))
  edit (·.withNums env.out [.status, .reason, .targetWakeTime])

def rpcEvtItwtSuspend : Handler Unit := do
  edit (·.withNums env.out [.status, .flowIdBitmap])
  allocOr env rpcErrMemoryFailure .list
  edit fun p => { p with words := Function.update p.words .actualSuspendTimeMs times }

def rpcEvtDhcpDnsStatus : Handler Unit := do
  edit (·.withNums env.out [.iface, .netLinkUp, .dhcpUp, .dnsUp, .dnsType])
  rpcRespCopyBytes env .dhcpIp 0 (env.out.buf .dhcpIp) 64 fun b p => p.withBytes .dhcpIp b
  rpcRespCopyBytes env .dhcpNm 0 (env.out.buf .dhcpNm) 64 fun b p => p.withBytes .dhcpNm b
  rpcRespCopyBytes env .dhcpGw 0 (env.out.buf .dhcpGw) 64 fun b p => p.withBytes .dhcpGw b
  rpcRespCopyBytes env .dnsIp 0 (env.out.buf .dnsIp) 64 fun b p => p.withBytes .dnsIp b
  setResp 0

def rpcEvtMemMonitor : Handler Unit := do
  heapInfo env .currInternal 0
  heapInfo env .currExternal 1
  edit (·.withNums env.out [.currTotalFreeHeapSize, .currMinFreeHeapSize])
  fillHeapInfo env .currInternal
  fillHeapInfo env .currExternal

/-- The URI that `dpp_enrollee_event_cb` hands over, with its terminating zero. -/
def rpcEvtSuppDppUriReady : Handler Unit := do
  let uri := (env.out.buf .uri).takeWhile (· ≠ 0) ++ [0]
  rpcRespCopyBytes env .qrcode 0 uri uri.length fun b p => p.withBytes .qrcode b
  setResp 0

def rpcEvtWifiDppUriReady : Handler Unit := do
  let uriLen := (env.out.num .uriDataLen).toNat
  rpcRespCopyBytes env .qrcode 0 (env.out.buf .uri) uriLen fun b p => p.withBytes .qrcode b
  setResp 0

/-- A configuration that could not be copied in full is sent as it is, and says success. -/
def rpcEvtDppCfgRecvd : Handler Unit := do
  rpcAllocElement env .cfg 0 (·.withSub .cfg {})
  let _ ← attempt (copyWifiStaCfgToRpcStruct env)
  setResp 0

def rpcEvtDppFail : Handler Unit := do
  edit (·.withNums env.out [.reason])
  setResp 0

def rpcEvtCustomRpc : Handler Unit := do
  edit (·.withNums env.out [.customEventId])
  rpcRespCopyBytes env .data 0 (env.out.buf .data) (env.out.buf .data).length fun b p =>
    p.withBytes .data b

/-- The switch of `rpc_evt_handler`: whether the message is sent. -/
def rpcEvt (e : Event) : Handler Bool :=
  match e with
  | .espInit => ntfyTemplate env false (edit (·.withNums env.out [.cpResetReason]))
  | .heartbeat => ntfyTemplate env false (edit (·.withNums env.out [.hbNum]))
  | .apStaConnected => ntfyTemplate env false (ntfyApSta env [.aid, .isMeshChild])
  | .apStaDisconnected => ntfyTemplate env false (ntfyApSta env [.aid, .isMeshChild, .reason])
  | .wifiEventNoArgs =>
    -- one byte of the id is read
    ntfyTemplate env false (edit (·.withNum .eventId (u8 (env.out.num .eventId))))
  | .staScanDone => ntfyTemplate env false do
    rpcAllocElement env .scanDone 0 (·.withSub .scanDone {})
    edit (.inside .scanDone (·.withNums env.out [.status, .number, .scanId]))
  | .staConnected =>
    ntfyTemplate env false (ntfyConnection env .staConnected [.channel, .authmode, .aid])
  | .staDisconnected =>
    ntfyTemplate env false (ntfyConnection env .staDisconnected [.reason, .rssi])
  | .dhcpDnsStatus => ntfyTemplate env false (rpcEvtDhcpDnsStatus env)
  | .staItwtSetup => ntfyTemplate env false (rpcEvtItwtSetup env)
  | .staItwtTeardown => ntfyTemplate env false (edit (·.withNums env.out [.flowId, .status]))
  | .staItwtSuspend => ntfyTemplate env false (rpcEvtItwtSuspend env times)
  | .staItwtProbe => ntfyTemplate env false (edit (·.withNums env.out [.status, .reason]))
  | .suppDppUriReady => ntfyTemplate env false (rpcEvtSuppDppUriReady env)
  | .suppDppCfgRecvd | .wifiDppCfgRecvd => ntfyTemplate env true (rpcEvtDppCfgRecvd env)
  | .suppDppFail | .wifiDppFail => ntfyTemplate env false (rpcEvtDppFail env)
  | .wifiDppUriReady => ntfyTemplate env false (rpcEvtWifiDppUriReady env)
  | .customRpc => ntfyTemplate env false (rpcEvtCustomRpc env)
  | .memMonitor => ntfyTemplate env true (rpcEvtMemMonitor env)

/-- `rpc_evt_handler`, for an event that is sent from within the co-processor. -/
def rpcEvtHandler (e : Event) : Handler (Option Rpc) :=
  if env.calloc .rpc then do
    let sent ← rpcEvt env times e
    let payload ← Prog.get
    if sent ∧ env.calloc .out then
      pure (some {
        msgType := typeEvent
        msgId := e.id
        uid := 0
        payload := payload.map (.event e, ·) })
    else pure none
  else pure none

end Handlers

/-! ## The host -/

/-- Events whose branch reads the member of another one, whatever they tell. -/
def Event.readsOther : Event → Bool
  | .suppDppCfgRecvd | .wifiDppUriReady | .wifiDppCfgRecvd | .wifiDppFail => true
  | _ => false

/-- The host reads through a pointer that the co-processor left `NULL`, or out of the member of
another event. -/
def EvtMisread (env : CpEnv) (e : Event) : Prop :=
  match e with
  | .staDisconnected => env.calloc (.elem .staDisconnected 0) = true
  | .staScanDone => env.calloc (.elem .scanDone 0) = false
  | .staItwtSetup => env.calloc (.elem .config 0) = false
  | e => e.readsOther = true

/-! ## What a handler leaves behind -/

section Bodies

variable {env : CpEnv}

theorem spares_edit (f : Msg → Msg) : Spares Option.isSome (edit f) :=
  .modify fun p => by cases p <;> rfl

theorem spares_allocOr (err : Int) (place : Place) : Spares Option.isSome (allocOr env err place) :=
  .ite (.pure _) ((spares_edit _).bind fun _ => .fail)

theorem spares_rpcAllocElement (f : Field) (i : Nat) (attach : Msg → Msg) :
    Spares Option.isSome (rpcAllocElement env f i attach) :=
  (spares_allocOr _ _).bind fun _ => spares_edit _

theorem spares_respCopyStr (f : Field) (i : Nat) (src : List UInt8) (maxLen : Nat)
    (attach : List UInt8 → Msg → Msg) :
    Spares Option.isSome (rpcRespCopyStr env f i src maxLen attach) :=
  (spares_allocOr _ _).bind fun _ => spares_edit _

theorem spares_respCopyBytes (f : Field) (i : Nat) (src : List UInt8) (num : Nat)
    (attach : List UInt8 → Msg → Msg) :
    Spares Option.isSome (rpcRespCopyBytes env f i src num attach) :=
  .ite (.pure _) ((spares_allocOr _ _).bind fun _ => spares_edit _)

theorem spares_ntfyApSta (fs : List Field) : Spares Option.isSome (ntfyApSta env fs) :=
  (spares_respCopyBytes _ _ _ _ _).bind fun _ => spares_edit _

theorem spares_ntfyConnection (f : Field) (fs : List Field) :
    Spares Option.isSome (ntfyConnection env f fs) := by
  refine (spares_rpcAllocElement _ _ _).bind fun _ => ?_
  refine (spares_respCopyBytes _ _ _ _ _).bind fun _ => ?_
  refine (spares_edit _).bind fun _ => ?_
  refine (spares_respCopyBytes _ _ _ _ _).bind fun _ => ?_
  exact spares_edit _

theorem spares_rpcEvtItwtSetup : Spares Option.isSome (rpcEvtItwtSetup env) := by
  refine (spares_rpcAllocElement _ _ _).bind fun _ => ?_
  refine (spares_edit _).bind fun _ => ?_
  exact spares_edit _

theorem spares_rpcEvtItwtSuspend (times : List Int) :
    Spares Option.isSome (rpcEvtItwtSuspend env times) := by
  refine (spares_edit _).bind fun _ => ?_
  refine (spares_allocOr _ _).bind fun _ => ?_
  exact spares_edit _

theorem spares_rpcEvtDhcpDnsStatus : Spares Option.isSome (rpcEvtDhcpDnsStatus env) := by
  refine (spares_edit _).bind fun _ => ?_
  refine (spares_respCopyBytes _ _ _ _ _).bind fun _ => ?_
  refine (spares_respCopyBytes _ _ _ _ _).bind fun _ => ?_
  refine (spares_respCopyBytes _ _ _ _ _).bind fun _ => ?_
  refine (spares_respCopyBytes _ _ _ _ _).bind fun _ => ?_
  exact spares_edit _

theorem spares_heapInfo (f : Field) (i : Nat) : Spares Option.isSome (heapInfo env f i) := by
  refine (spares_rpcAllocElement _ _ _).bind fun _ => ?_
  refine (spares_rpcAllocElement _ _ _).bind fun _ => ?_
  exact spares_rpcAllocElement _ _ _

theorem spares_fillHeapInfo (f : Field) : Spares Option.isSome (fillHeapInfo env f) :=
  (spares_edit _).bind fun _ => spares_edit _

theorem spares_rpcEvtMemMonitor : Spares Option.isSome (rpcEvtMemMonitor env) := by
  refine (spares_heapInfo _ _).bind fun _ => ?_
  refine (spares_heapInfo _ _).bind fun _ => ?_
  refine (spares_edit _).bind fun _ => ?_
  refine (spares_fillHeapInfo _).bind fun _ => ?_
  exact spares_fillHeapInfo _

theorem spares_qrcode (uri : List UInt8) (len : Nat) : Spares Option.isSome (do
    rpcRespCopyBytes env .qrcode 0 uri len fun b p => p.withBytes .qrcode b
    setResp 0) :=
  (spares_respCopyBytes _ _ _ _ _).bind fun _ => spares_edit _

theorem spares_copyWifiStaCfgToRpcStruct :
    Spares Option.isSome (copyWifiStaCfgToRpcStruct env) := by
  refine (spares_rpcAllocElement _ _ _).bind fun _ => ?_
  refine (spares_respCopyStr _ _ _ _ _).bind fun _ => ?_
  refine (spares_respCopyStr _ _ _ _ _).bind fun _ => ?_
  refine (spares_respCopyBytes _ _ _ _ _).bind fun _ => ?_
  refine (spares_rpcAllocElement _ _ _).bind fun _ => ?_
  refine (spares_rpcAllocElement _ _ _).bind fun _ => ?_
  refine (spares_edit _).bind fun _ => ?_
  refine (spares_edit _).bind fun _ => ?_
  exact spares_edit _

theorem spares_rpcEvtDppCfgRecvd : Spares Option.isSome (rpcEvtDppCfgRecvd env) := by
  refine (spares_rpcAllocElement _ _ _).bind fun _ => ?_
  refine (Spares.attempt spares_copyWifiStaCfgToRpcStruct).bind fun _ => ?_
  exact spares_edit _

theorem spares_rpcEvtCustomRpc : Spares Option.isSome (rpcEvtCustomRpc env) :=
  (spares_edit _).bind fun _ => spares_respCopyBytes _ _ _ _ _

variable {P : Msg → Prop} {m : Mem (Option Msg)}

theorem leaves_ntfyApSta {fs : List Field} (h : ∀ p : Msg, (p.bytes .mac).length ≤ 6 → P p) :
    Leaves P (ntfyApSta env fs) (m.put (some {})) := by
  have hSix : ¬6 = 0 := by decide
  refine leaves_copyBytesOr (h _ (by simp)) (fun hNum => absurd hNum hSix) ?_
  refine leaves_last ?_
  refine leaves_edit ?_
  refine leaves_end (h _ ?_)
  simp [Nat.min_le_left]

/-- The part is there exactly if there was memory for it, and its addresses fit. -/
theorem leaves_ntfyConnection {f : Field} {fs : List Field}
    (hErr : env.calloc (.elem f 0) = false → P (({} : Msg).withNum .resp rpcErrMemoryFailure))
    (h : env.calloc (.elem f 0) = true → ∀ p q : Msg, p.sub f = some q →
      (q.bytes .ssid).length ≤ 32 → (q.bytes .bssid).length ≤ 6 → P p) :
    Leaves P (ntfyConnection env f fs) (m.put (some {})) := by
  have hSsid : ¬32 = 0 := by decide
  have hBssid : ¬6 = 0 := by decide
  refine leaves_elementOr hErr fun hAlloc => ?_
  refine leaves_copyBytesOr ?_ (fun hNum => absurd hNum hSsid) ?_
  · refine h hAlloc _ _ (by simp; rfl) ?_ ?_ <;> simp
  · refine leaves_edit ?_
    refine leaves_copyBytesOr ?_ (fun hNum => absurd hNum hBssid) ?_
    · refine h hAlloc _ _ (by simp; rfl) ?_ ?_ <;> simp [Nat.min_le_left]
    · refine leaves_last ?_
      refine leaves_edit ?_
      refine leaves_end ?_
      refine h hAlloc _ _ (by simp; rfl) ?_ ?_ <;> simp [Nat.min_le_left]

theorem leaves_rpcEvtDhcpDnsStatus
    (h : ∀ p : Msg, (p.bytes .dhcpIp).length ≤ 64 → (p.bytes .dhcpNm).length ≤ 64 →
      (p.bytes .dhcpGw).length ≤ 64 → (p.bytes .dnsIp).length ≤ 64 → P p) :
    Leaves P (rpcEvtDhcpDnsStatus env) (m.put (some {})) := by
  have hNum : ¬64 = 0 := by decide
  refine leaves_edit ?_
  refine leaves_copyBytesOr ?_ (fun h => absurd h hNum) ?_
  rotate_left
  refine leaves_copyBytesOr ?_ (fun h => absurd h hNum) ?_
  rotate_left
  refine leaves_copyBytesOr ?_ (fun h => absurd h hNum) ?_
  rotate_left
  refine leaves_copyBytesOr ?_ (fun h => absurd h hNum) ?_
  rotate_left
  refine leaves_last ?_
  refine leaves_edit ?_
  refine leaves_end ?_
  all_goals
    refine h _ ?_ ?_ ?_ ?_ <;> simp [Nat.min_le_left]

theorem leaves_rpcEvtSuppDppUriReady
    (h : ∀ p : Msg, p.bytes .qrcode = [] ∨ 0 ∈ p.bytes .qrcode → P p) :
    Leaves P (rpcEvtSuppDppUriReady env) (m.put (some {})) := by
  refine leaves_copyBytesOr (h _ (.inl rfl)) (fun hNum => by simp at hNum) ?_
  refine leaves_last ?_
  refine leaves_edit ?_
  refine leaves_end (h _ (.inr ?_))
  rw [List.take_length]
  simp

/-- The configuration is there exactly if there was memory for it. -/
theorem leaves_rpcEvtItwtSetup
    (h : ∀ p : Msg, (p.sub .config).isSome = env.calloc (.elem .config 0) → P p) :
    Leaves P (rpcEvtItwtSetup env) (m.put (some {})) := by
  refine leaves_elementOr (fun hAlloc => h _ ?_) fun hAlloc => ?_
  · simp [hAlloc]
  · refine leaves_edit ?_
    refine leaves_last ?_
    refine leaves_edit ?_
    refine leaves_end (h _ ?_)
    simp [hAlloc]

end Bodies

/-! ## What is in an event -/

/-- The branch of the host for an event finds what it reads, and what it copies fits. -/
structure Noticed (env : CpEnv) (e : Event) (p : Msg) : Prop where
  reads : e.readsOther = false → (EvtBodyReads e p ↔ ¬EvtMisread env e)
  fits : ∀ henv, EvtBodyFits henv e p

/-- If a message is sent, its payload satisfies `P`. -/
def Sends (P : Msg → Prop) (p : Handler Bool) (m : Mem (Option Msg)) : Prop :=
  wp p (fun _ _ => True) (fun _ => True)
    (fun sent m' => sent = true → ∃ p, m'.store = some p ∧ P p) m

section Events

variable {env : CpEnv} {m : Mem (Option Msg)}

theorem sends_ntfyTemplate {P : Msg → Prop} {strict : Bool} {body : Handler Unit}
    (hSome : Spares Option.isSome body) (hBody : Leaves P body (m.put (some {}))) :
    Sends P (ntfyTemplate env strict body) m := by
  have hThere (m' : Mem (Option Msg)) (hIs : m'.store.isSome = true) (hSound : Sound P m') :
      ∃ p, m'.store = some p ∧ P p := by
    obtain ⟨p, hp⟩ := Option.isSome_iff_exists.mp hIs
    exact ⟨p, hp, hSound p hp⟩
  unfold Sends ntfyTemplate newResp
  simp only [wp_bind, wp_attempt, wp_need, wp_modify, wp_ite, wp_pure]
  by_cases hAlloc : env.calloc .resp = true
  · simp only [hAlloc, if_true]
    exact wp_mono (fun _ _ _ => trivial) (fun m' h _ => hThere m' h.1 h.2)
      (fun _ m' h _ => hThere m' h.1 h.2) (wp_and (hSome _) hBody)
  · simp [hAlloc]

/-- A handler whose event the host reads without a look at anything but its numbers. -/
theorem sends_plain {e : Event} {strict : Bool} {body : Handler Unit}
    (hSome : Spares Option.isSome body) (h : ∀ p, Noticed env e p) :
    Sends (Noticed env e) (ntfyTemplate env strict body) m :=
  sends_ntfyTemplate hSome (leaves_of_plain h body)

theorem sends_apSta {e : Event} {fs : List Field}
    (h : ∀ p : Msg, (p.bytes .mac).length ≤ 6 → Noticed env e p) :
    Sends (Noticed env e) (ntfyTemplate env false (ntfyApSta env fs)) m :=
  sends_ntfyTemplate (spares_ntfyApSta fs) (leaves_ntfyApSta h)

theorem noticed_of_fits {e : Event} {p : Msg} (hReads : EvtBodyReads e p)
    (hOwn : ¬EvtMisread env e) (hFits : ∀ henv, EvtBodyFits henv e p) : Noticed env e p :=
  ⟨fun _ => iff_of_true hReads hOwn, hFits⟩

theorem noticed_of_other {e : Event} {p : Msg} (hOther : e.readsOther = true)
    (hFits : ∀ henv, EvtBodyFits henv e p) : Noticed env e p :=
  ⟨fun hOwn => by simp [hOther] at hOwn, hFits⟩

theorem sends_rpcEvt (times : List Int) (e : Event) :
    Sends (Noticed env e) (rpcEvt env times e) m := by
  cases e
  case apStaConnected =>
    exact sends_apSta fun p hMac =>
      noticed_of_fits trivial Bool.false_ne_true fun _ _ => hMac
  case apStaDisconnected =>
    exact sends_apSta fun p hMac =>
      noticed_of_fits trivial Bool.false_ne_true fun _ _ => hMac
  case staScanDone =>
    refine sends_ntfyTemplate ((spares_rpcAllocElement _ _ _).bind fun _ => spares_edit _) ?_
    refine leaves_elementOr (fun hAlloc => ⟨fun _ => ?_, fun _ => trivial⟩) fun hAlloc => ?_
    · simp [EvtBodyReads, EvtMisread, hAlloc]
    · refine leaves_last ?_
      refine leaves_edit ?_
      refine leaves_end ⟨fun _ => ?_, fun _ => trivial⟩
      simp [EvtBodyReads, EvtMisread, hAlloc]
  case staItwtSetup =>
    refine sends_ntfyTemplate spares_rpcEvtItwtSetup ?_
    refine leaves_rpcEvtItwtSetup fun p hConfig => ⟨fun _ => ?_, fun _ => trivial⟩
    simp [EvtBodyReads, EvtMisread, hConfig]
  case staConnected =>
    refine sends_ntfyTemplate (spares_ntfyConnection _ _) ?_
    refine leaves_ntfyConnection (fun _ => ?_) fun _ p q hq hSsid hBssid => ?_
    · refine noticed_of_fits trivial Bool.false_ne_true ?_
      intro henv hResp
      exact absurd hResp (by decide)
    · refine noticed_of_fits trivial Bool.false_ne_true ?_
      rintro henv - q' hq' -
      obtain rfl : q = q' := by simpa [hq] using hq'
      exact ⟨hSsid, hBssid⟩
  case staDisconnected =>
    refine sends_ntfyTemplate (spares_ntfyConnection _ _) ?_
    refine leaves_ntfyConnection (fun hAlloc => ⟨fun _ => ?_, fun _ => trivial⟩)
      fun hAlloc p q hq _ _ => ⟨fun _ => ?_, fun _ => trivial⟩
    · simp [EvtBodyReads, EvtMisread, hAlloc]
    · simp [EvtBodyReads, EvtMisread, hAlloc, hq]
  case dhcpDnsStatus =>
    refine sends_ntfyTemplate spares_rpcEvtDhcpDnsStatus ?_
    refine leaves_rpcEvtDhcpDnsStatus fun p hIp hNm hGw hDns => ?_
    exact noticed_of_fits trivial Bool.false_ne_true fun _ => ⟨hIp, hNm, hGw, hDns⟩
  case suppDppUriReady =>
    refine sends_ntfyTemplate (spares_qrcode _ _) ?_
    refine leaves_rpcEvtSuppDppUriReady fun p hUri => ?_
    refine noticed_of_fits trivial Bool.false_ne_true fun henv _ hLen => ?_
    refine hUri.resolve_left ?_
    intro hNil
    rw [hNil] at hLen
    exact absurd hLen (Nat.succ_ne_zero _).symm
  case suppDppCfgRecvd | wifiDppCfgRecvd =>
    exact sends_plain spares_rpcEvtDppCfgRecvd fun _ => noticed_of_other rfl fun _ => trivial
  case wifiDppUriReady =>
    exact sends_plain (spares_qrcode _ _) fun _ => noticed_of_other rfl fun _ => trivial
  case wifiDppFail =>
    exact sends_plain ((spares_edit _).bind fun _ => spares_edit _) fun _ =>
      noticed_of_other rfl fun _ => trivial
  case suppDppFail =>
    exact sends_plain ((spares_edit _).bind fun _ => spares_edit _) fun _ =>
      noticed_of_fits trivial Bool.false_ne_true fun _ => trivial
  case staItwtSuspend =>
    exact sends_plain (spares_rpcEvtItwtSuspend times) fun _ =>
      noticed_of_fits trivial Bool.false_ne_true fun _ => trivial
  case customRpc =>
    exact sends_plain spares_rpcEvtCustomRpc fun _ =>
      noticed_of_fits trivial Bool.false_ne_true fun _ => trivial
  case memMonitor =>
    exact sends_plain spares_rpcEvtMemMonitor fun _ =>
      noticed_of_fits trivial Bool.false_ne_true fun _ => trivial
  all_goals exact sends_plain (spares_edit _) fun _ =>
    noticed_of_fits trivial Bool.false_ne_true fun _ => trivial

/-- The message for an event has its id and a payload of its kind. -/
theorem notified_rpcEvtHandler {times : List Int} {e : Event} {m' : Mem (Option Msg)} {ntfy : Rpc}
    (hRun : rpcEvtHandler env times e m = .done (some ntfy) m') :
    ntfy.msgType = typeEvent ∧ ntfy.msgId = e.id ∧
      ∃ p, ntfy.payload = some (.event e, p) ∧ Noticed env e p := by
  have hAll : wp (rpcEvtHandler env times e) (fun _ _ => True) (fun _ => True)
      (fun o _ => ∀ r, o = some r → r.msgType = typeEvent ∧ r.msgId = e.id ∧
        ∃ p, r.payload = some (.event e, p) ∧ Noticed env e p) m := by
    unfold rpcEvtHandler
    rw [wp_ite]
    split
    · simp only [wp_bind, wp_get, wp_ite, wp_pure]
      refine wp_mono (fun _ _ h => h) (fun _ h => h) (fun sent m' h => ?_)
        (sends_rpcEvt times e)
      split
      · rename_i hSent
        obtain ⟨p, hp, hNoticed⟩ := h hSent.1
        rintro r ⟨rfl⟩
        exact ⟨rfl, rfl, p, by simp [hp], hNoticed⟩
      · simp
    · simp
  exact (wp_of_eq hRun).mp hAll ntfy rfl

end Events

/-! ## What the host makes of it -/

section Receipt

variable {henv : HostEnv} {env : CpEnv} {e : Event} {p : Msg} {ntfy : Rpc}

theorem eventOf_eventId (e : Event) : eventOf e.id = some e := by
  cases e <;> rfl

theorem guarded_event {P : Msg → Prop} (hPayload : ntfy.payload = some (.event e, p)) :
    Guarded ntfy (.event e) P ↔ P p := by
  unfold Guarded
  rw [hPayload]
  simp

theorem evtReads_iff (hPayload : ntfy.payload = some (.event e, p)) (hp : Noticed env e p) :
    EvtReads ntfy e ↔ ¬EvtMisread env e := by
  cases e
  case suppDppUriReady | suppDppFail => exact iff_of_true ⟨p, hPayload⟩ Bool.false_ne_true
  case suppDppCfgRecvd | wifiDppUriReady | wifiDppCfgRecvd | wifiDppFail =>
    exact iff_of_false id fun h => h rfl
  all_goals exact (guarded_event hPayload).trans (hp.reads rfl)

/-- The host receives an event of the co-processor without harm exactly if it does not misread
it, or drops it. -/
theorem inBounds_event {times : List Int} {m : Mem (Option Msg)}
    (hRun : rpcEvtHandler env times e { store := none } = .done (some ntfy) m) :
    InBounds (processRpcRxMsg henv ntfy) { store := {} } ↔
      (henv.registered e = true → henv.callocCmd = true → ¬EvtMisread env e) := by
  obtain ⟨hType, hId, p, hPayload, hp⟩ := notified_rpcEvtHandler hRun
  have hFits : EvtFits henv ntfy e := by
    intro q hq
    obtain rfl : p = q := by simpa [hPayload] using hq
    exact hp.fits henv
  have hRegistered : isEventCallbackRegistered henv ntfy.msgId = henv.registered e := by
    unfold isEventCallbackRegistered
    rw [hId, eventOf_eventId]
  unfold processRpcRxMsg
  rw [if_pos hType, hRegistered]
  split
  · rename_i hCall
    rw [inBounds_receiveEvent good_new rfl, hId, eventOf_eventId]
    simp [evtReads_iff hPayload hp, hFits, hCall]
  · rename_i hCall
    exact iff_of_true good_new fun hReg hCalloc => absurd ⟨hReg, hCalloc⟩ hCall

/-- A co-processor without memory for the result of a scan. -/
def noScanResult : CpEnv :=
  { board with calloc := fun place => !place matches .elem .scanDone _ }

/-- The host reads that result through `NULL`. -/
theorem not_inBounds_scanDone : ∃ ntfy m,
    rpcEvtHandler noScanResult [] .staScanDone { store := none } = .done (some ntfy) m ∧
      ¬InBounds (processRpcRxMsg {} ntfy) { store := {} } := by
  obtain ⟨ntfy, m, hRun⟩ : ∃ ntfy m,
      rpcEvtHandler noScanResult [] .staScanDone { store := none } = .done (some ntfy) m :=
    ⟨_, _, rfl⟩
  exact ⟨ntfy, m, hRun, fun h => (inBounds_event hRun).mp h rfl rfl rfl⟩

end Receipt

end EspHosted.Codec
