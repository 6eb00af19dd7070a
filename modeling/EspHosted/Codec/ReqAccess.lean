import EspHosted.Codec.ReqHandlers
import EspHosted.Codec.RspAccess

/-!
# What serving a request reads and copies

For every handler of the co-processor the condition under which it ends without a fault and its
copies stay inside. A handler with `RPC_TEMPLATE` needs the payload, if there is one, to be its
own member of the union. The other handlers need nothing, except three that read their member
without a test.

* `wp_commandHandler`: one handler, for every postcondition that edits of the response leave alone;
* `inBounds_dataTransferHandler`: every request.
-/

namespace EspHosted.Codec

open Checked Checked.Prog
open Coprocessor

/-! ## Rules -/

/-- The memory after the payload of the response was changed. -/
def edited (m : Mem (Option Msg)) (f : Msg → Msg) : Mem (Option Msg) := m.put (m.store.map f)

section Rules

variable {F : Fault → Mem (Option Msg) → Prop} {E : Mem (Option Msg) → Prop}
  {Q : Unit → Mem (Option Msg) → Prop} {m : Mem (Option Msg)}

@[simp] theorem wp_edit (f : Msg → Msg) :
    wp (edit f) F E Q = fun m => Q () (edited m f) := rfl

@[simp] theorem wp_setResp (x : Int) :
    wp (setResp x) F E Q = fun m => Q () (edited m (·.withNum .resp x)) := rfl

@[simp] theorem wp_retFailIf (x : Int) :
    wp (retFailIf x) F E Q =
      fun m => if x = 0 then Q () m else E (edited m (·.withNum .resp x)) := by
  unfold retFailIf
  funext m
  split <;> rfl

@[simp] theorem truth_eq_zero {c : Prop} [Decidable c] : truth c = 0 ↔ ¬c := by
  unfold truth
  split <;> simp [*]

@[simp] theorem wp_allocOr (env : CpEnv) (err : Int) (place : Place) :
    wp (allocOr env err place) F E Q =
      fun m => if env.calloc place = true then Q () m
        else E (edited m (·.withNum .resp err)) := by
  unfold allocOr
  funext m
  split <;> rfl

@[simp] theorem wp_rpcAllocElement (env : CpEnv) (f : Field) (i : Nat) (attach : Msg → Msg) :
    wp (rpcAllocElement env f i attach) F E Q =
      fun m => if env.calloc (.elem f i) = true then Q () (edited m attach)
        else E (edited m (·.withNum .resp rpcErrMemoryFailure)) := by
  unfold rpcAllocElement
  rw [wp_bind, wp_allocOr]
  rfl

@[simp] theorem wp_rpcRespCopyStr (env : CpEnv) (f : Field) (i : Nat) (src : List UInt8)
    (maxLen : Nat) (attach : List UInt8 → Msg → Msg) :
    wp (rpcRespCopyStr env f i src maxLen attach) F E Q =
      fun m => if env.calloc (.elem f i) = true then Q () (edited m (attach (cStr src maxLen)))
        else E (edited m (·.withNum .resp failure)) := by
  unfold rpcRespCopyStr
  rw [wp_bind, wp_allocOr]
  rfl

@[simp] theorem wp_rpcRespCopyBytes (env : CpEnv) (f : Field) (i : Nat) (src : List UInt8)
    (num : Nat) (attach : List UInt8 → Msg → Msg) :
    wp (rpcRespCopyBytes env f i src num attach) F E Q = fun m =>
      if num = 0 then Q () m
      else if env.calloc (.elem f i) = true then Q () (edited m (attach (src.take num)))
      else E (edited m (·.withNum .resp failure)) := by
  unfold rpcRespCopyBytes
  rw [wp_ite, wp_bind, wp_allocOr]
  rfl

@[simp] theorem wp_getNums (env : CpEnv) (fs : List Field) :
    wp (getNums env fs) F E Q =
      fun m => if env.ret = 0 then Q () (edited m (·.withNums env.out fs))
        else E (edited m (·.withNum .resp env.ret)) := by
  unfold getNums
  rw [wp_bind, wp_retFailIf]
  rfl

@[simp] theorem wp_readIfPresent (p : ReqMsg) (f : ReqField) :
    wp (readIfPresent p f) F E Q = Q () := by
  unfold readIfPresent
  split
  · rfl
  · rename_i hSub
    rw [hSub]
    rfl

end Rules

/-- The payload, if there is one, is the member of the request and satisfies `P`. -/
def ReqGuarded (rpc : ReqRpc) (c : Call) (P : ReqMsg → Prop) : Prop :=
  ∀ b p, rpc.payload = some (b, p) → b = .req c ∧ P p

section Openings

variable {E : Mem (Option Msg) → Prop} {Q : Unit → Mem (Option Msg) → Prop}
  {m : Mem (Option Msg)} {env : CpEnv} {rpc : ReqRpc} {c : Call}

theorem wp_deref_req {Q : ReqMsg → Mem (Option Msg) → Prop} :
    wp (deref (rpc.member (.req c))) (fun _ _ => False) E Q m ↔
      ∃ p, rpc.payload = some (.req c, p) ∧ Q p m := by
  unfold ReqRpc.member
  cases hp : rpc.payload with
  | none => simp
  | some x =>
    obtain ⟨b, p⟩ := x
    by_cases hb : Member.req c = b
    · subst hb
      simp
    · have hb' : b ≠ .req c := fun h => hb h.symm
      simp [hb, hb']

/-- A handler that tests its request. -/
theorem wp_rpcTemplate {body : ReqMsg → Handler Unit}
    (hOld : env.calloc .resp = false ∨ rpc.payload = none → E m) :
    wp (rpcTemplate env rpc c body) (fun _ _ => False) E Q m ↔
      (env.calloc .resp = true → ReqGuarded rpc c fun p =>
        wp (body p) (fun _ _ => False) E Q (m.put (some {}))) := by
  unfold rpcTemplate newResp ReqGuarded
  simp only [wp_bind, wp_need, wp_modify]
  cases hp : rpc.payload with
  | none =>
    have hNull : (rpc.member (.req c)).isNull = true := by unfold ReqRpc.member; rw [hp]; rfl
    simp [hNull, hOld (.inr hp)]
  | some x =>
    obtain ⟨b, p⟩ := x
    have hNull : (rpc.member (.req c)).isNull = false := by
      unfold ReqRpc.member
      rw [hp]
      dsimp only
      split <;> rfl
    cases hAlloc : env.calloc .resp with
    | false => simp [hNull, hOld (.inl hAlloc)]
    | true =>
      simp only [hNull, Bool.not_false, if_true, forall_const, wp_deref_req, hp,
        Option.some.injEq, Prod.mk.injEq]
      constructor
      · rintro ⟨q, ⟨rfl, rfl⟩, h⟩ b' p' ⟨rfl, rfl⟩
        exact ⟨rfl, h⟩
      · intro h
        obtain ⟨rfl, hBody⟩ := h b p ⟨rfl, rfl⟩
        exact ⟨p, ⟨rfl, rfl⟩, hBody⟩

/-- A handler that does not look at its request. -/
theorem wp_newResp {k : Handler Unit} (hOld : env.calloc .resp = false → E m) :
    wp (do newResp env; k) (fun _ _ => False) E Q m ↔
      (env.calloc .resp = true → wp k (fun _ _ => False) E Q (m.put (some {}))) := by
  unfold newResp
  simp only [wp_bind, wp_need, wp_modify]
  cases hAlloc : env.calloc .resp with
  | false => simp [hOld hAlloc]
  | true => simp

end Openings

/-! ## Conditions -/

/-- How a handler treats its request: it tests it, it reads it without a test, or it does not
look at it. -/
inductive Opening
  | tested
  | blind
  | simple

def Call.opening (env : CpEnv) : Call → Opening
  | .getMACAddress | .wifiScanGetApRecords | .otaWrite => .blind
  | .setDhcpDnsStatus | .getDhcpDnsStatus => if env.networkSplit then .tested else .simple
  | .getWifiMode | .suppDppDeinit | .suppDppStartListen | .suppDppStopListen => .simple
  | .otaActivate | .appGetDesc | .wifiGetPs | .otaBegin | .otaEnd => .simple
  | .wifiGetMaxTxPower | .wifiDeinit | .wifiStart | .wifiStop | .wifiConnect => .simple
  | .wifiDisconnect | .wifiScanStop | .wifiScanGetApNum | .wifiClearApList => .simple
  | .wifiRestore | .wifiClearFastConnect | .wifiStaGetApInfo | .wifiGetChannel => .simple
  | .wifiGetCountry | .wifiApGetStaList | .wifiGetCountryCode | .wifiStaGetAid => .simple
  | .wifiStaGetNegotiatedPhymode | .wifiStaGetRssi | .wifiGetBand => .simple
  | .wifiGetBandMode | .getCoprocessorFwVersion | .wifiScanGetApRecord => .simple
  | .wifiStaItwtGetFlowIdStatus | .wifiStaEnterpriseEnable => .simple
  | .wifiStaEnterpriseDisable | .eapClearIdentity | .eapClearUsername => .simple
  | .eapClearPassword | .eapClearNewPassword | .eapClearCaCert => .simple
  | .eapClearCertificateAndKey | .eapGetDisableTimeCheck => .simple
  | _ => .tested

/-- A string has an end. -/
def Terminated (src : List UInt8) : Prop := src ≠ [] → 0 ∈ src

/-- The times of a scan are there. -/
def ScanTimeThere (config : ReqMsg) : Prop :=
  ∃ t active, config.sub .scanTime = some t ∧ t.sub .active = some active

/-- A scan has its times, its SSID has an end, and its BSSID is an address. -/
def ScanReady (config : ReqMsg) : Prop :=
  ScanTimeThere config ∧ Terminated (config.bytes .ssid) ∧
    (config.bytes .bssid ≠ [] → 6 ≤ (config.bytes .bssid).length)

/-- The union of the configuration does not hold another part than the interface asks for. -/
def SetConfigReads (p : ReqMsg) : Prop :=
  ∀ cfg, p.sub .cfg = some cfg → (p.num .iface = 0 → cfg.unionMember .sta ≠ .other) ∧
    (p.num .iface = 1 → cfg.unionMember .ap ≠ .other)

/-- The copy of an address text has an end. -/
def AddressEnds (src : List UInt8) : Prop := (Access.strlen 64 (src.take 64)).Ok

/-- The addresses for the station are texts, and the driver takes them, when they are set. -/
def StaticIpFits (env : CpEnv) (p : ReqMsg) : Prop :=
  p.num .dhcpUp % 256 ≠ 0 → p.num .iface % 256 = 0 → AddressEnds (p.bytes .dhcpIp) ∧
    AddressEnds (p.bytes .dhcpNm) ∧ AddressEnds (p.bytes .dhcpGw) ∧ env.setIpInfoRet = 0

/-- The address of a name server is a text, when it is set. -/
def DnsFits (env : CpEnv) (p : ReqMsg) : Prop :=
  p.num .dnsUp % 256 ≠ 0 → p.num .iface % 256 = 0 ∨ p.num .iface % 256 = 1 →
    env.netif (p.num .iface % 256) = true → AddressEnds (p.bytes .dnsIp)

/-- A text is as long as its length field says, when it is copied. -/
def TextFits (env : CpEnv) (p : ReqMsg) (f lenField : ReqField) : Prop :=
  p.bytes f ≠ [] → 0 < p.num lenField → env.ret = 0 →
    (p.num lenField).toNat ≤ (p.bytes f).length

/-- A certificate is as long as its length field says, when it is copied. -/
def CertFits (env : CpEnv) (p : ReqMsg) (f lenField : ReqField) : Prop :=
  (u32 (p.num lenField)).toNat ≠ 0 → env.calloc (.held f) = true →
    (u32 (p.num lenField)).toNat ≤ (p.bytes f).length

/-- There is memory for a certificate, or none is needed. -/
def Held (env : CpEnv) (p : ReqMsg) (f lenField : ReqField) : Prop :=
  (u32 (p.num lenField)).toNat = 0 ∨ env.calloc (.held f) = true

/-- Each of the three fields fits, as far as they are reached. -/
def CertAndKeyFits (env : CpEnv) (p : ReqMsg) : Prop :=
  ¬mismatched p .clientCert .clientCertLen → ¬mismatched p .privateKey .privateKeyLen →
    ¬mismatched p .privateKeyPassword .privateKeyPasswdLen →
      CertFits env p .clientCert .clientCertLen ∧ (Held env p .clientCert .clientCertLen →
        CertFits env p .privateKey .privateKeyLen ∧ (Held env p .privateKey .privateKeyLen →
          CertFits env p .privateKeyPassword .privateKeyPasswdLen))

/-- What a handler that tests its request needs to find behind it. -/
def ReqInside (env : CpEnv) (c : Call) (p : ReqMsg) : Prop :=
  match c with
  | .wifiSetConfig => SetConfigReads p
  | .wifiScanParams => p.num .cmd = cmdSet → p.num .isConfigNull = 0 →
      ∀ config, p.sub .config = some config → ScanTimeThere config
  | .wifiScanStart => p.num .configSet ≠ 0 →
      ∀ config, p.sub .config = some config → ScanReady config
  | .wifiStaTwtConfig => (p.sub .config).isSome
  | .wifiStaItwtSetup => (p.sub .setupConfig).isSome
  | .eapSetFastParams => (p.sub .eapFastConfig).isSome
  | .gpioConfig => (p.sub .config).isSome
  | .getDhcpDnsStatus => env.getIpRet ≠ 0 ∨ env.getDnsRet ≠ 0
  | .setDhcpDnsStatus => env.networkSplit = true → StaticIpFits env p ∧ DnsFits env p
  | .suppDppBootstrapGen => Terminated (p.bytes .chanList) ∧ Terminated (p.bytes .key) ∧
      Terminated (p.bytes .info)
  | .eapSetIdentity => TextFits env p .identity .len
  | .eapSetUsername => TextFits env p .username .len
  | .eapSetPassword => TextFits env p .password .len
  | .eapSetNewPassword => TextFits env p .newPassword .len
  | .eapSetPacFile => TextFits env p .pacFile .pacFileLen
  | .eapSetCaCert => p.bytes .caCert ≠ [] → 0 < p.num .caCertLen →
      CertFits env p .caCert .caCertLen
  | .eapSetCertificateAndKey => CertAndKeyFits env p
  | .eapSetDomainName => Terminated (p.bytes .domainName)
  | _ => True

/-- What a handler needs to find. -/
def CallInside (env : CpEnv) (rpc : ReqRpc) (c : Call) : Prop :=
  env.calloc .resp = true →
    match c.opening env with
    | .tested => ReqGuarded rpc c (ReqInside env c)
    | .blind => ∃ p, rpc.payload = some (.req c, p)
    | .simple => True

/-- What edits of the response leave alone, and a copy exactly if it stays inside. -/
structure Stable (E : Mem (Option Msg) → Prop) : Prop where
  edit : ∀ m f, E (edited m f) ↔ E m
  note : ∀ m as, E (m.note as) ↔ E m ∧ ∀ a ∈ as, a.Ok

/-! ## Bodies -/

/-- The copies of `RPC_REQ_COPY_BYTES`. -/
def reqCopies (room size num : Nat) (src : List UInt8) : List Access :=
  if src = [] then [] else [.copy room src.length (min (min size num) src.length)]

theorem reqCopies_ok {room size num : Nat} (hRoom : min size num ≤ room) (src : List UInt8) :
    (∀ a ∈ reqCopies room size num src, a.Ok) ↔ True := by
  refine iff_true_intro ?_
  unfold reqCopies
  split
  · simp
  · simp only [List.mem_singleton, forall_eq, Access.Ok]
    omega

@[simp] theorem wp_rpcReqCopyBytes {F : Fault → Mem (Option Msg) → Prop}
    {E : Mem (Option Msg) → Prop} {Q : Unit → Mem (Option Msg) → Prop} (room size num : Nat)
    (src : List UInt8) :
    wp (rpcReqCopyBytes room size num src) F E Q =
      fun m => Q () (m.note (reqCopies room size num src)) := by
  unfold rpcReqCopyBytes reqCopies
  funext m
  split
  · rw [Mem.note_nil]
    rfl
  · rfl

/-- `p` ends without a fault, and with its copies inside, if and only if `P`: whatever is asked of
the memory holds at its end exactly if it held before and `P`. -/
def Needs {α : Type} (p : Handler α) (P : Prop) : Prop :=
  ∀ E, Stable E → ∀ m, wp p (fun _ _ => False) E (fun _ => E) m ↔ E m ∧ P

namespace Needs

variable {α β : Type} {p q : Handler α} {P P' : Prop}

theorem congr (h : Needs p P) (hP : P ↔ P') : Needs p P' := by
  intro E hE m
  rw [h E hE m, hP]

/-- What comes after `p` needs nothing. -/
theorem bind {k : α → Handler β} (h : Needs p P) (hk : ∀ a, Needs (k a) True) :
    Needs (p >>= k) P := by
  intro E hE m
  rw [wp_bind, ← h E hE m]
  exact wp_congr (fun _ => Iff.rfl) fun a m => (hk a E hE m).trans (and_iff_left trivial)

/-- What comes after `p`, which does not leave early, has needs of its own. -/
theorem bind_of_stays {k : Handler β} {p : Handler Unit} (as : List Access)
    (hp : ∀ m, p m = .done () (m.note as)) (h : Needs k P) :
    Needs (do p; k) ((∀ a ∈ as, a.Ok) ∧ P) := by
  intro E hE m
  rw [wp_bind, wp_of_eq (hp m), h E hE, hE.note, and_assoc]

theorem ite {c : Prop} [Decidable c] (hp : Needs p P) (hq : Needs q P') :
    Needs (if c then p else q) ((c → P) ∧ (¬c → P')) := by
  intro E hE m
  split
  · rename_i hc
    rw [hp E hE m]
    simp [hc]
  · rename_i hc
    rw [hq E hE m]
    simp [hc]

theorem pure (a : α) : Needs (Pure.pure a : Handler α) True := by
  intro E _ m
  simp

theorem edit (f : Msg → Msg) : Needs (edit f) True := by
  intro E hE m
  simp [hE.edit]

theorem setResp (x : Int) : Needs (setResp x) True := Needs.edit _

theorem fault (f : Fault) : Needs (Prog.fault f : Handler α) False := by
  intro E hE m
  simp

theorem note (a : Access) : Needs (Prog.note a) a.Ok := by
  intro E hE m
  simp [hE.note]

theorem retFailIf (x : Int) : Needs (retFailIf x) True := by
  intro E hE m
  simp [hE.edit]

/-- What comes after a test is only needed if the test passes. -/
theorem guard {k : Handler Unit} (x : Int) (h : Needs k P) :
    Needs (do Codec.retFailIf x; k) (x = 0 → P) := by
  intro E hE m
  rw [wp_bind, wp_retFailIf]
  by_cases hx : x = 0
  · simp [hx, h E hE m]
  · simp [hx, hE.edit]

theorem getNums (env : CpEnv) (fs : List Field) : Needs (getNums env fs) True := by
  intro E hE m
  simp [hE.edit]

theorem load {k : α → Handler β} {P : α → Prop} (o : Option α) (h : ∀ a, Needs (k a) (P a)) :
    Needs (Prog.load o >>= k) (∃ a, o = some a ∧ P a) := by
  intro E hE m
  cases o with
  | none => simp
  | some a => simp [h a E hE m]

theorem deref {k : α → Handler β} {P : α → Prop} (x : Ptr α) (h : ∀ a, Needs (k a) (P a)) :
    Needs (Prog.deref x >>= k) (∃ a, x = .obj a ∧ P a) := by
  intro E hE m
  cases x with
  | null => simp
  | other => simp
  | obj a => simp [h a E hE m]

theorem driverStr (src : List UInt8) {k : Handler Unit} (h : Needs k P) :
    Needs (do Codec.driverStr src; k) (Terminated src ∧ P) := by
  unfold Codec.driverStr Terminated
  split
  · rename_i hSrc
    exact h.congr (by simp [hSrc])
  · rename_i hSrc
    refine (bind_of_stays [.strlen src.length src] (fun _ => rfl) h).congr ?_
    simp [Access.Ok, hSrc]

theorem driverBytes (num : Nat) (src : List UInt8) {k : Handler Unit} (h : Needs k P) :
    Needs (do Codec.driverBytes num src; k) ((src ≠ [] → num ≤ src.length) ∧ P) := by
  unfold Codec.driverBytes
  split
  · rename_i hSrc
    exact h.congr (by simp [hSrc])
  · rename_i hSrc
    refine (bind_of_stays [.copy num src.length num] (fun _ => rfl) h).congr ?_
    simp [Access.Ok, hSrc]

end Needs

section Bodies

variable {env : CpEnv} {p : ReqMsg}

theorem needs_setStaConfig (cfg : ReqMsg) :
    Needs (setStaConfig cfg) (cfg.unionMember .sta ≠ .other) := by
  refine ((Needs.deref _ (P := fun _ => True) fun sta => ?_).guard _).congr ?_
  · intro E hE m
    simp [hE.note, reqCopies_ok]
  · cases cfg.unionMember .sta <;> simp [Ptr.isNull]

theorem needs_setApConfig (cfg : ReqMsg) :
    Needs (setApConfig env cfg) (cfg.unionMember .ap ≠ .other) := by
  refine ((Needs.deref _ (P := fun _ => True) fun ap => ?_).guard _).congr ?_
  · intro E hE m
    simp [hE.note, hE.edit, reqCopies_ok]
  · cases cfg.unionMember .ap <;> simp [Ptr.isNull]

theorem needs_readScanTime (config : ReqMsg) :
    Needs (readScanTime config) (ScanTimeThere config) := by
  refine (Needs.load _ fun t => Needs.load _ fun active => Needs.pure ()).congr ?_
  simp [ScanTimeThere]

theorem needs_wifiSetConfig :
    Needs (do
      retFailIf (truth (p.num .iface ≠ 0 ∧ p.num .iface ≠ 1))
      retFailIf (truth (p.sub .cfg = none))
      let cfg ← load (p.sub .cfg)
      if p.num .iface = 0 then setStaConfig cfg else setApConfig env cfg) (SetConfigReads p) := by
  refine (((Needs.load _ fun cfg => (needs_setStaConfig cfg).ite
    (needs_setApConfig cfg)).guard _).guard _).congr ?_
  unfold SetConfigReads
  cases p.sub .cfg with
  | none => simp
  | some cfg =>
    by_cases hSta : p.num .iface = 0
    · simp [hSta]
    · simp [hSta]

theorem needs_readIfPresent (q : ReqMsg) (f : ReqField) {k : Handler Unit} {P : Prop}
    (hk : Needs k P) : Needs (do readIfPresent q f; k) P := by
  intro E hE m
  rw [wp_bind, wp_readIfPresent]
  exact hk E hE m

/-- The reading of the times of a scan, and what comes after it. -/
theorem needs_scanTime (config : ReqMsg) {k : Handler Unit} {P : Prop} (hk : Needs k P) :
    Needs (do readScanTime config; k) (ScanTimeThere config ∧ P) := by
  intro E hE m
  have hRest := hk E hE
  unfold readScanTime ScanTimeThere
  cases hTime : config.sub .scanTime with
  | none => simp
  | some t =>
    cases hActive : t.sub .active with
    | none => simp [hActive]
    | some active => simp [hActive, hRest]

theorem needs_scanStart (config : ReqMsg) :
    Needs (do
      readScanTime config
      readIfPresent config .channelBitmap
      driverStr (config.bytes .ssid)
      driverBytes 6 (config.bytes .bssid)
      retFailIf env.ret) (ScanReady config) := by
  have hDriver : Needs (do
      driverStr (config.bytes .ssid)
      driverBytes 6 (config.bytes .bssid)
      retFailIf env.ret) (Terminated (config.bytes .ssid) ∧
        (config.bytes .bssid ≠ [] → 6 ≤ (config.bytes .bssid).length) ∧ True) :=
    Needs.driverStr _ (Needs.driverBytes 6 _ (Needs.retFailIf _))
  refine (needs_scanTime config (needs_readIfPresent config .channelBitmap hDriver)).congr ?_
  simp [ScanReady]

/-- The search for the end of an address text, and what comes after it. -/
theorem needs_addressText (src : List UInt8) {k : Handler Unit} {P : Prop} (hk : Needs k P) :
    Needs (do addressText src; k) (AddressEnds src ∧ P) := by
  refine (Needs.bind_of_stays [.strlen 64 (src.take 64)] (fun _ => rfl) hk).congr ?_
  rw [List.forall_mem_singleton]
  rfl

/-- A fixed address for the station, and what comes after it. -/
theorem needs_setSlaveStaticIp (up : Prop) [Decidable up] (iface : Int) (ip nm gw : List UInt8)
    {k : Handler Unit} {P : Prop} (hk : Needs k P) :
    Needs (do
      if up then setSlaveStaticIp env iface ip nm gw else pure ()
      k) ((up → iface = 0 → AddressEnds ip ∧ AddressEnds nm ∧ AddressEnds gw ∧
        env.setIpInfoRet = 0) ∧ P) := by
  intro E hE m
  have hRest := hk E hE
  by_cases hUp : up
  · by_cases hSta : iface = 0
    · by_cases hSet : env.setIpInfoRet = 0
      · simp [setSlaveStaticIp, addressText, AddressEnds, hUp, hSta, hSet, hRest, hE.note,
          and_assoc]
      · simp [setSlaveStaticIp, addressText, hUp, hSta, hSet]
    · simp [setSlaveStaticIp, hUp, hSta, hRest]
  · simp [hUp, hRest]

/-- A copy into an array that is as long as it says, and what comes after it. -/
theorem needs_copied {size : Nat} (src : List UInt8) {k : Handler Unit} {P : Prop}
    (hk : Needs k P) : Needs (do rpcReqCopyBytes size size size src; k) P := by
  intro E hE m
  have hRest := hk E hE
  simp [hRest, hE.note, reqCopies_ok]

theorem needs_setSlaveDns (iface : Int) (ip : List UInt8) :
    Needs (setSlaveDns env iface ip)
      (iface = 0 ∨ iface = 1 → env.netif iface = true → AddressEnds ip) := by
  refine (Needs.ite (Needs.note (.strlen 64 (ip.take 64))) (Needs.pure ())).congr ?_
  simp only [and_imp, implies_true, and_true]
  rfl

/-- The part of a scan that reads its times, and what comes after it. -/
theorem needs_readConfig (o : Option ReqMsg) (c : Prop) [Decidable c] {k : Handler Unit}
    (hk : Needs k True) :
    Needs (if c ∧ o.isSome then do
        let config ← load o
        readScanTime config
        k
      else k) (c → ∀ config, o = some config → ScanTimeThere config) := by
  refine (Needs.ite (Needs.load _ fun config => (needs_readScanTime config).bind fun _ => hk)
    hk).congr ?_
  cases o with
  | none => simp
  | some config => simp

theorem needs_setText (f lenField : ReqField) :
    Needs (do
      retFailIf (truth (p.bytes f = [] ∨ p.num lenField ≤ 0))
      retFailIf env.ret
      note (.copy (p.num lenField).toNat (p.bytes f).length (p.num lenField).toNat))
      (TextFits env p f lenField) := by
  refine (((Needs.note _).guard _).guard _).congr ?_
  unfold TextFits Access.Ok
  simp only [truth_eq_zero, not_or, Int.not_le, and_imp, le_refl, true_and, ne_eq]

/-- Storing a certificate, and what comes after it. -/
theorem needs_storeCert (f lenField : ReqField) {k : Handler Unit} {P : Prop} (hk : Needs k P) :
    Needs (do storeCert env p f lenField; k)
      (CertFits env p f lenField ∧ (Held env p f lenField → P)) := by
  unfold storeCert CertFits Held
  generalize (u32 (p.num lenField)).toNat = size
  intro E hE m
  have hk := hk E hE
  by_cases hSize : size = 0
  · subst hSize
    simp [hk]
  · by_cases hAlloc : env.calloc (.held f) = true
    · simp [hSize, hAlloc, hk, hE.note, Access.Ok, and_assoc]
    · simp [hSize, hAlloc]

theorem needs_setCaCert :
    Needs (do
      retFailIf (truth (p.bytes .caCert = [] ∨ p.num .caCertLen ≤ 0))
      storeCert env p .caCert .caCertLen
      retFailIf env.ret)
      (p.bytes .caCert ≠ [] → 0 < p.num .caCertLen → CertFits env p .caCert .caCertLen) := by
  refine ((needs_storeCert .caCert .caCertLen (Needs.retFailIf _)).guard _).congr ?_
  simp only [truth_eq_zero, not_or, Int.not_le, and_imp, implies_true, and_true, ne_eq]

theorem needs_setCertificateAndKey :
    Needs (do
      retFailIf (truth (mismatched p .clientCert .clientCertLen))
      retFailIf (truth (mismatched p .privateKey .privateKeyLen))
      retFailIf (truth (mismatched p .privateKeyPassword .privateKeyPasswdLen))
      storeCert env p .clientCert .clientCertLen
      storeCert env p .privateKey .privateKeyLen
      storeCert env p .privateKeyPassword .privateKeyPasswdLen
      retFailIf env.ret) (CertAndKeyFits env p) := by
  have hPassword : Needs (do
      storeCert env p .privateKeyPassword .privateKeyPasswdLen
      retFailIf env.ret) (CertFits env p .privateKeyPassword .privateKeyPasswdLen) :=
    (needs_storeCert .privateKeyPassword .privateKeyPasswdLen (Needs.retFailIf _)).congr (by simp)
  refine ((((needs_storeCert .clientCert .clientCertLen (needs_storeCert .privateKey .privateKeyLen
    hPassword)).guard _).guard _).guard _).congr ?_
  unfold CertAndKeyFits
  simp only [truth_eq_zero]

/-- A message whose pointer is tested before it is read. -/
theorem needs_tested {o : Option ReqMsg} {k : ReqMsg → Handler Unit}
    (hk : ∀ q, Needs (k q) True) :
    Needs (do retFailIf (truth (o = none)); let q ← load o; k q) True := by
  refine ((Needs.load o hk).guard _).congr ?_
  cases o with
  | none => simp
  | some q => simp

theorem needs_setBands (f : ReqField) :
    Needs (do
      retFailIf (truth (p.sub f = none))
      edit (·.withNum .ifx (p.num .ifx))
      let _ ← load (p.sub f)
      retFailIf env.ret) True := by
  intro E hE m
  cases hSub : p.sub f with
  | none => simp [hE.edit]
  | some q => simp [hE.edit]

theorem needs_withConfig (f : ReqField) :
    Needs (do
      let _ ← load (p.sub f)
      retFailIf env.ret) (p.sub f).isSome := by
  refine (Needs.load _ fun _ => Needs.retFailIf _).congr ?_
  cases p.sub f with
  | none => simp
  | some q => simp

theorem needs_answerGpio (r : GpioGuard.Request) : Needs (answerGpio env r) True := by
  intro E hE m
  simp [answerGpio, hE.edit]

theorem needs_heapInfo (f : Field) (i : Nat) : Needs (heapInfo env f i) True := by
  intro E hE m
  simp [heapInfo, hE.edit]

theorem needs_fillHeapInfo (f : Field) : Needs (fillHeapInfo env f) True := by
  intro E hE m
  simp [fillHeapInfo, hE.edit]

theorem needs_copyWifiStaCfgToRpcStruct : Needs (copyWifiStaCfgToRpcStruct env) True := by
  intro E hE m
  simp [copyWifiStaCfgToRpcStruct, hE.edit]

theorem needs_copyApConfig : Needs (copyApConfig env) True := by
  intro E hE m
  simp [copyApConfig, hE.edit]

theorem needs_copySingleApRecord : Needs (copySingleApRecord env) True := by
  intro E hE m
  simp [copySingleApRecord, hE.edit]

theorem needs_copyApRecords (i : Nat) (rs : List Rec) : Needs (copyApRecords env i rs) True := by
  induction rs generalizing i with
  | nil => exact Needs.pure ()
  | cons r rs ih =>
    intro E hE m
    have hRest (m : Mem (Option Msg)) := ih (i + 1) E hE m
    simp [copyApRecords, hE.edit, hRest]

theorem needs_copyStas (i : Nat) (rs : List Rec) : Needs (copyStas env i rs) True := by
  induction rs generalizing i with
  | nil => exact Needs.pure []
  | cons r rs ih =>
    intro E hE m
    have hRest (m : Mem (Option Msg)) := ih (i + 1) E hE m
    simp [copyStas, hE.edit, hRest]

end Bodies

/-! ## Handlers -/

/-- The handler answers with a payload, which may be an error. -/
def Answered (env : CpEnv) (rpc : ReqRpc) (c : Call) : Prop :=
  env.calloc .resp = true ∧ (c.opening env = .tested → rpc.payload ≠ none)

/-- `E` holds at the end of a handler that does not answer, and for a new response. -/
structure Ready (env : CpEnv) (rpc : ReqRpc) (c : Call) (E : Mem (Option Msg) → Prop)
    (m : Mem (Option Msg)) : Prop extends Stable E where
  silent : ¬Answered env rpc c → E m
  opened : Answered env rpc c → E (m.put (some {}))

section Handlers

variable {env : CpEnv} {rpc : ReqRpc} {c : Call} {E : Mem (Option Msg) → Prop}
  {m : Mem (Option Msg)}

theorem Ready.template (h : Ready env rpc c E m) (hOpening : c.opening env = .tested)
    {body : ReqMsg → Handler Unit} (hBody : ∀ p, Needs (body p) (ReqInside env c p)) :
    wp (rpcTemplate env rpc c body) (fun _ _ => False) E (fun _ => E) m ↔
      CallInside env rpc c := by
  unfold CallInside
  rw [hOpening, wp_rpcTemplate]
  · refine imp_congr_right fun hAlloc => ?_
    unfold ReqGuarded
    refine forall_congr' fun b => forall_congr' fun p => imp_congr_right fun hp => ?_
    have hNew : E (m.put (some {})) := h.opened ⟨hAlloc, fun _ hNone => by simp [hNone] at hp⟩
    refine and_congr_right fun _ => (hBody p E h.toStable _).trans ?_
    simp [hNew]
  · rintro (hAlloc | hNone)
    · exact h.silent fun hAnswered => by simp [hAnswered.1] at hAlloc
    · exact h.silent fun hAnswered => hAnswered.2 hOpening hNone

theorem Ready.simple (h : Ready env rpc c E m) (hOpening : c.opening env = .simple)
    {body : Handler Unit} (hBody : Needs body True) :
    wp (rpcTemplateSimple env body) (fun _ _ => False) E (fun _ => E) m ↔
      CallInside env rpc c := by
  unfold CallInside rpcTemplateSimple
  rw [hOpening, wp_newResp]
  · refine imp_congr_right fun hAlloc => ?_
    have hNew : E (m.put (some {})) :=
      h.opened ⟨hAlloc, fun hTested => by simp [hOpening] at hTested⟩
    rw [hBody E h.toStable]
    simp [hNew]
  · intro hAlloc
    exact h.silent fun hAnswered => by simp [hAnswered.1] at hAlloc

theorem Ready.blind (h : Ready env rpc c E m) (hOpening : c.opening env = .blind)
    {body : ReqMsg → Handler Unit} (hBody : ∀ p, Needs (body p) True) :
    wp (do newResp env; let p ← deref (rpc.member (.req c)); body p) (fun _ _ => False) E
      (fun _ => E) m ↔ CallInside env rpc c := by
  unfold CallInside
  rw [hOpening, wp_newResp]
  · refine imp_congr_right fun hAlloc => ?_
    have hNew : E (m.put (some {})) :=
      h.opened ⟨hAlloc, fun hTested => by simp [hOpening] at hTested⟩
    rw [wp_bind, wp_deref_req]
    exact exists_congr fun p => and_iff_left ((hBody p E h.toStable _).mpr ⟨hNew, trivial⟩)
  · intro hAlloc
    exact h.silent fun hAnswered => by simp [hAnswered.1] at hAlloc

/-- A handler that calls the driver and nothing else. -/
theorem Ready.call (h : Ready env rpc c E m) (hOpening : c.opening env = .tested)
    (hInside : ∀ p, ReqInside env c p) {body : Handler Unit} (hBody : Needs body True) :
    wp (rpcTemplate env rpc c fun _ => body) (fun _ _ => False) E (fun _ => E) m ↔
      CallInside env rpc c :=
  h.template hOpening fun p => hBody.congr (iff_of_true trivial (hInside p))

/-- A handler whose body writes into the response and copies what fits. -/
theorem Ready.inert (h : Ready env rpc c E m) (hOpening : c.opening env = .tested)
    (hInside : ∀ p, ReqInside env c p) {body : ReqMsg → Handler Unit}
    (hBody : ∀ p, Needs (body p) True) :
    wp (rpcTemplate env rpc c body) (fun _ _ => False) E (fun _ => E) m ↔
      CallInside env rpc c :=
  h.template hOpening fun p => (hBody p).congr (iff_of_true trivial (hInside p))

/-- Every handler, for whatever is asked of the memory. -/
theorem wp_commandHandler (h : Ready env rpc c E m) :
    wp (commandHandler env rpc c) (fun _ _ => False) E (fun _ => E) m ↔ CallInside env rpc c := by
  cases c
  case getMACAddress =>
    refine h.blind rfl fun p => ?_
    intro E hE m
    simp [hE.edit]
  case wifiScanGetApRecords =>
    refine h.blind rfl fun p => ?_
    intro E hE m
    simp [hE.edit, needs_copyApRecords _ _ E hE]
  case otaWrite =>
    refine h.blind rfl fun p => ?_
    intro E hE m
    simp [hE.edit]
  case wifiSetConfig => exact h.template rfl fun p => needs_wifiSetConfig
  case wifiScanParams =>
    refine h.template rfl fun p => ?_
    have hGet : Needs (do
        retFailIf env.ret
        rpcAllocElement env .config 0 (·.withSub .config {})
        rpcAllocElement env .scanTime 0 (.inside .config (·.withSub .scanTime {}))
        rpcAllocElement env .active 0 (.inside .config (.inside .scanTime (·.withSub .active {})))
        edit (.inside .config (.inside .scanTime (·.withNums env.out [.passive])))
        edit (.inside .config (.inside .scanTime (.inside .active
          (·.withNums env.out [.min, .max]))))
        edit (.inside .config (·.withNums env.out [.homeChanDwellTime]))) True := by
      intro E hE m
      simp [hE.edit]
    refine ((needs_readConfig (p.sub .config) (p.num .isConfigNull = 0)
      (Needs.retFailIf env.ret)).ite (hGet.ite (Needs.retFailIf _))).congr ?_
    change _ ↔ (p.num .cmd = cmdSet → _)
    simp
  case wifiScanStart =>
    refine h.template rfl fun p => (Needs.ite (Needs.retFailIf env.ret) (Needs.load _ fun config =>
      needs_scanStart config)).congr ?_
    change _ ↔ (p.num .configSet ≠ 0 → _)
    cases p.sub .config with
    | none => simp
    | some config => simp
  case wifiStaTwtConfig => exact h.template rfl fun p => needs_withConfig _
  case wifiStaItwtSetup => exact h.template rfl fun p => needs_withConfig _
  case eapSetFastParams => exact h.template rfl fun p => needs_withConfig _
  case gpioConfig =>
    refine h.template rfl fun p => (Needs.load _ fun q => needs_answerGpio _).congr ?_
    change _ ↔ (p.sub .config).isSome = true
    cases p.sub .config with
    | none => simp
    | some q => simp
  case getDhcpDnsStatus =>
    have hOpening : Call.opening env .getDhcpDnsStatus =
        if env.networkSplit then .tested else .simple := rfl
    change wp (reqGetDhcpDnsStatus env rpc) _ _ _ _ ↔ _
    unfold reqGetDhcpDnsStatus
    cases hSplit : env.networkSplit with
    | false => exact h.simple (by rw [hOpening, hSplit]; rfl) (Needs.setResp _)
    | true =>
      refine h.template (by rw [hOpening, hSplit]; rfl) fun p => ?_
      refine (Needs.ite (Needs.setResp _) (Needs.fault .null)).congr ?_
      change _ ↔ (env.getIpRet ≠ 0 ∨ env.getDnsRet ≠ 0)
      simp only [implies_true, true_and, imp_false, Classical.not_not]
  case setDhcpDnsStatus =>
    have hOpening : Call.opening env .setDhcpDnsStatus =
        if env.networkSplit then .tested else .simple := rfl
    change wp (reqSetDhcpDnsStatus env rpc) _ _ _ _ ↔ _
    unfold reqSetDhcpDnsStatus
    cases hSplit : env.networkSplit with
    | false => exact h.simple (by rw [hOpening, hSplit]; rfl) (Needs.setResp _)
    | true =>
      refine h.template (by rw [hOpening, hSplit]; rfl) fun p => ?_
      have hAddresses : Needs (do
          if p.num .dhcpUp % 256 ≠ 0 then
            setSlaveStaticIp env (p.num .iface % 256) (p.bytes .dhcpIp) (p.bytes .dhcpNm)
              (p.bytes .dhcpGw)
          else pure ()
          if p.num .dnsUp % 256 ≠ 0 then setSlaveDns env (p.num .iface % 256) (p.bytes .dnsIp)
          else pure ()) (StaticIpFits env p ∧ DnsFits env p) :=
        needs_setSlaveStaticIp _ _ _ _ _
          ((Needs.ite (needs_setSlaveDns _ _) (Needs.pure ())).congr (by simp [DnsFits]))
      refine (needs_copied _ (needs_copied _ (needs_copied _ (needs_copied _ hAddresses)))).congr ?_
      change _ ↔ (env.networkSplit = true → _)
      simp [hSplit]
  case suppDppBootstrapGen =>
    exact h.template rfl fun p => Needs.driverStr _ (Needs.driverStr _
      ((Needs.driverStr _ (Needs.retFailIf _)).congr (by simp)))
  case eapSetIdentity => exact h.template rfl fun p => needs_setText _ _
  case eapSetUsername => exact h.template rfl fun p => needs_setText _ _
  case eapSetPassword => exact h.template rfl fun p => needs_setText _ _
  case eapSetNewPassword => exact h.template rfl fun p => needs_setText _ _
  case eapSetPacFile => exact h.template rfl fun p => needs_setText _ _
  case eapSetCaCert => exact h.template rfl fun p => needs_setCaCert
  case eapSetCertificateAndKey => exact h.template rfl fun p => needs_setCertificateAndKey
  case eapSetDomainName =>
    refine h.template rfl fun p => ((Needs.driverStr _ (Needs.retFailIf _)).guard _).congr ?_
    change _ ↔ Terminated (p.bytes .domainName)
    unfold Terminated
    simp
  case wifiApGetStaList =>
    refine h.simple rfl ?_
    intro E hE m
    have hStas : Needs (copyStas env 0 env.stas) True := needs_copyStas 0 env.stas
    simp [hE.edit, hStas E hE]
  case appGetDesc =>
    refine h.simple rfl ?_
    intro E hE m
    cases env.appDesc with
    | none => simp [hE.edit]
    | some desc => simp [hE.edit]
  case wifiStaGetApInfo =>
    refine h.simple rfl ?_
    intro E hE m
    simp [hE.edit, needs_copySingleApRecord E hE]
  case wifiScanGetApRecord =>
    refine h.simple rfl ?_
    intro E hE m
    simp [hE.edit, needs_copySingleApRecord E hE]
  case otaActivate | otaBegin | otaEnd | wifiConnect | wifiGetCountry | wifiGetCountryCode
      | getCoprocessorFwVersion =>
    refine h.simple rfl ?_
    intro E hE m
    simp [hE.edit]
  case wifiInit | wifiSetCountry =>
    refine h.inert rfl (fun _ => trivial) fun p => needs_tested fun q => ?_
    intro E hE m
    simp [hE.edit, hE.note, reqCopies_ok]
  case wifiSetProtocols | wifiSetBandwidths =>
    exact h.inert rfl (fun _ => trivial) fun p => needs_setBands _
  case memMonitor =>
    refine h.inert rfl (fun _ => trivial) fun p => (Needs.retFailIf _).bind fun _ => ?_
    have hRest : Needs (do
        edit (·.withNum .config (p.num .config))
        edit (·.withNums env.out [.reportAlways, .intervalSec])
        heapInfo env .currInternal 0
        heapInfo env .currExternal 1
        edit (·.withNums env.out [.currTotalHeapSize])
        fillHeapInfo env .currInternal
        fillHeapInfo env .currExternal) True :=
      (Needs.edit _).bind fun _ => (Needs.edit _).bind fun _ => (needs_heapInfo _ _).bind fun _ =>
        (needs_heapInfo _ _).bind fun _ => (Needs.edit _).bind fun _ =>
          (needs_fillHeapInfo _).bind fun _ => needs_fillHeapInfo _
    exact (((Needs.retFailIf _).bind fun _ => hRest).ite hRest).congr (by simp)
  case wifiGetConfig =>
    refine h.inert rfl (fun _ => trivial) fun p => ?_
    intro E hE m
    simp [hE.edit, needs_copyWifiStaCfgToRpcStruct E hE, needs_copyApConfig E hE]
  case gpioResetPin | gpioSetLevel | gpioGetLevel | gpioSetDirection | gpioInputEnable
      | gpioSetPullMode | extCoex =>
    exact h.inert rfl (fun _ => trivial) fun p => needs_answerGpio _
  case wifiApGetStaAid | wifiSetCountryCode | wifiGetProtocols | wifiGetBandwidths | setMacAddress
      | ifaceMacAddrSetGet | ifaceMacAddrLenGet | featureControl | customRpc =>
    refine h.inert rfl (fun _ => trivial) fun p => ?_
    intro E hE m
    simp [hE.edit, hE.note, reqCopies_ok]
  case getWifiMode | wifiGetPs | wifiGetMaxTxPower | wifiScanGetApNum | wifiGetChannel
      | wifiStaGetAid | wifiStaGetNegotiatedPhymode | wifiStaGetRssi | wifiGetBand
      | wifiGetBandMode | wifiStaItwtGetFlowIdStatus | eapGetDisableTimeCheck =>
    exact h.simple rfl (Needs.getNums _ _)
  case setWifiMode | suppDppInit | wifiSetPs | wifiSetMaxTxPower | configHeartbeat
      | wifiDeauthSta | wifiSetProtocol | wifiSetBandwidth | wifiSetChannel | wifiSetStorage
      | wifiSetInactiveTime | wifiSetBand | wifiSetBandMode | wifiStaItwtTeardown
      | wifiStaItwtSuspend | wifiStaItwtSendProbeReq | wifiStaItwtSetTargetWakeTimeOffset
      | eapSetTtlsPhase2Method | eapSetSuitebCertification | eapUseDefaultCertBundle
      | eapSetDisableTimeCheck | eapSetEapMethods =>
    exact h.call rfl (fun _ => trivial) (Needs.retFailIf _)
  case suppDppDeinit | suppDppStartListen | suppDppStopListen | wifiDeinit | wifiStart
      | wifiStop | wifiDisconnect | wifiScanStop | wifiClearApList | wifiRestore
      | wifiClearFastConnect | wifiStaEnterpriseEnable | wifiStaEnterpriseDisable =>
    exact h.simple rfl (Needs.retFailIf _)
  case wifiGetProtocol | wifiGetBandwidth | wifiGetInactiveTime =>
    exact h.call rfl (fun _ => trivial) (Needs.getNums _ _)
  case eapClearIdentity | eapClearUsername | eapClearPassword | eapClearNewPassword
      | eapClearCaCert | eapClearCertificateAndKey =>
    exact h.simple rfl (Needs.pure ())
  case wifiSetOkcSupport =>
    exact h.call rfl (fun _ => trivial) (Needs.pure ())

end Handlers

/-! ## Every request -/

theorem stable_good : Stable Mem.Good where
  edit _ _ := Iff.rfl
  note m as := m.good_note as

theorem ready_good {env : CpEnv} {rpc : ReqRpc} {c : Call} {m : Mem (Option Msg)}
    (hGood : m.Good) : Ready env rpc c Mem.Good m where
  toStable := stable_good
  silent _ := hGood
  opened _ := hGood

/-- A request that has a handler, and a response to fill in. -/
theorem inBounds_handler {env : CpEnv} {rpc : ReqRpc} {c : Call} {m : Mem (Option Msg)}
    (hGood : m.Good) (hAlloc : env.calloc .rpc = true) (hCall : lookupReqHandler rpc = some c) :
    InBounds (dataTransferHandler env rpc) m ↔ CallInside env rpc c := by
  unfold dataTransferHandler espRpcCommandDispatcher InBounds
  rw [if_pos hAlloc, hCall]
  simp only [wp_bind, wp_attempt, wp_pure, wp_get, wp_ite, ite_self]
  exact wp_commandHandler (ready_good hGood)

/-- Without memory for a response, or a handler, the request is not looked at. -/
theorem inBounds_unserved {env : CpEnv} {rpc : ReqRpc} {m : Mem (Option Msg)} (hGood : m.Good)
    (h : env.calloc .rpc = false ∨ lookupReqHandler rpc = none) :
    InBounds (dataTransferHandler env rpc) m := by
  cases hAlloc : env.calloc .rpc with
  | false => simp [dataTransferHandler, InBounds, hAlloc, hGood]
  | true =>
    have hNone : lookupReqHandler rpc = none := h.resolve_left (by simp [hAlloc])
    simp [dataTransferHandler, espRpcCommandDispatcher, InBounds, hAlloc, hNone, hGood]

/-- A co-processor on which every allocation and every call of the driver succeeds. -/
def board : CpEnv where
  calloc _ := true
  ret := 0
  out := {}
  otaPartition := true
  firstOtaWrite := false
  otaHeaderSize := 288
  otaValidity := 0
  otaCompleted := false
  timerCreate := true
  timerStart := true
  appDesc := none
  heap _ _ := {}
  macLen _ := 6
  macLen_le _ := by decide
  idfTarget := [0x63, 0x36]
  networkSplit := false
  getIpRet := 0
  getDnsRet := 0
  setIpInfoRet := 0
  netif _ := true
  getConfigRet := 0
  stationConnected := false
  apNumRet := 0
  apCount := 0
  apRecords := []
  stas := []
  numStas := 0
  numStas_le := Nat.le_refl 0
  customRegistered _ := false
  chip := GpioGuard.uartChip
  gpio := GpioGuard.boot

/-- An identity of one byte that is announced with 200. -/
def shortIdentity : ReqRpc where
  msgId := Call.eapSetIdentity.reqId
  uid := 1
  payload := some (.req .eapSetIdentity, { num := fun _ => 200, bytes := fun _ => [0x61] })

end EspHosted.Codec
