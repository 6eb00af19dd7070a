import EspHosted.Codec.Compose

/-!
# From a call of the application to its status

A request that `compose_rpc_req` composed is one that the handler of the co-processor serves without
harm. There are four exceptions. The key for a DPP bootstrap code is sent without an end and is
handed to the driver as a string, and so is an SSID to scan for that is sent without its end; of a
client certificate that is `NULL` the length is sent all the same, and is used if it is negative;
and addresses for the station that the driver refuses stop the co-processor.

* `inBounds_composed`: the co-processor serves a composed request without harm;
* `status_composed`: what the application gets for a call that the co-processor hands to its driver.
-/

namespace EspHosted.Codec.Compose

open Checked Checked.Prog

/-! ## What a case makes of the payload -/

/-- `p` turns a payload that satisfies `R` into one that satisfies `S`, if it comes to its end. -/
def Turns {α : Type} (c : Call) (R : ReqMsg → Prop) (p : Composer α) (S : α → ReqMsg → Prop) :
    Prop :=
  ∀ m q, m.store.payload = some (.req c, q) → R q → wp p (fun _ _ => True) (fun _ => True)
    (fun a m' => ∃ q', m'.store.payload = some (.req c, q') ∧ S a q') m

namespace Turns

variable {α β : Type} {c : Call} {R R' : ReqMsg → Prop}

theorem bind {p : Composer α} {k : α → Composer β} {S : α → ReqMsg → Prop}
    {T : β → ReqMsg → Prop} (hp : Turns c R p S) (hk : ∀ a, Turns c (S a) (k a) T) :
    Turns c R (p >>= k) T := by
  intro m q hq hR
  rw [wp_bind]
  refine wp_mono (fun _ _ h => h) (fun _ h => h) (fun a m' h => ?_) (hp m q hq hR)
  obtain ⟨q', hq', hS⟩ := h
  exact hk a m' q' hq' hS

theorem mono {p : Composer α} {S S' : α → ReqMsg → Prop} (h : Turns c R p S)
    (hR : ∀ q, R' q → R q) (hS : ∀ a q, S a q → S' a q) : Turns c R' p S' := fun m q hq hR' =>
  wp_mono (fun _ _ h => h) (fun _ h => h) (fun a _ ⟨q', hq', h'⟩ => ⟨q', hq', hS a q' h'⟩)
    (h m q hq (hR q hR'))

theorem pure {S : α → ReqMsg → Prop} (a : α) (h : ∀ q, R q → S a q) :
    Turns c R (Pure.pure a : Composer α) S := fun _ q hq hR => ⟨q, hq, h q hR⟩

theorem fault {S : α → ReqMsg → Prop} (f : Fault) : Turns c R (Prog.fault f : Composer α) S :=
  fun _ _ _ _ => trivial

theorem edit {S : ReqMsg → Prop} (f : ReqMsg → ReqMsg) (h : ∀ q, R q → S (f q)) :
    Turns c R (edit f) fun _ => S :=
  fun _ q hq hR => ⟨f q, by simp [hq], h q hR⟩

theorem ite {d : Prop} [Decidable d] {p k : Composer α} {S : α → ReqMsg → Prop}
    (hp : d → Turns c R p S) (hk : ¬d → Turns c R k S) : Turns c R (if d then p else k) S := by
  split
  · rename_i hd
    exact hp hd
  · rename_i hd
    exact hk hd

end Turns

section Steps

variable {calloc : Piece → Bool} {a : AppReq} {c : Call} {R S : ReqMsg → Prop}

theorem turns_rpcAllocElement {f : ReqField} {attach : ReqMsg → ReqMsg}
    (h : ∀ q, R q → S (attach q)) : Turns c R (rpcAllocElement calloc f attach) fun _ => S := by
  intro m q hq hR
  unfold rpcAllocElement allocate addRpcBuffToFreeLater failWith
  simp only [wp_bind, wp_ite, wp_modify, wp_fail, wp_get, wp_need]
  split
  · split
    · exact Turns.edit attach h _ q hq hR
    · trivial
  · trivial

/-- The bytes that are sent are there, as many as are announced. -/
theorem turns_rpcReqCopyBytes {src : Option (List UInt8)} {size : Nat}
    {attach : List UInt8 → ReqMsg → ReqMsg} (hNone : src = none ∨ size = 0 → ∀ q, R q → S q)
    (h : ∀ b q, src = some b → size ≤ b.length → R q → S (attach (b.take size) q)) :
    Turns c R (rpcReqCopyBytes src size attach) fun _ => S := by
  unfold rpcReqCopyBytes
  cases src with
  | none => exact .pure () (hNone (.inl rfl))
  | some b =>
    refine .ite (fun hZero => .pure () (hNone (.inr hZero))) fun _ => ?_
    unfold readBytes
    refine Turns.bind (S := fun bytes q => bytes = b.take size ∧ size ≤ b.length ∧ R q) ?_
      fun bytes => ?_
    · refine .ite (fun hLen => ?_) fun _ => .fault _
      exact .pure _ fun q hR => ⟨rfl, hLen, hR⟩
    · refine .edit _ ?_
      rintro q ⟨rfl, hLen, hR⟩
      exact h b q rfl hLen hR

/-- A fact that any bytes leave alone. -/
theorem turns_attach {src : Option (List UInt8)} {size : Nat}
    {attach : List UInt8 → ReqMsg → ReqMsg} (h : ∀ b q, R q → R (attach b q)) :
    Turns c R (rpcReqCopyBytes src size attach) fun _ => R :=
  turns_rpcReqCopyBytes (fun _ _ hR => hR) fun _ q _ _ hR => h _ q hR

theorem turns_cLen (b : List UInt8) :
    Turns c R (cLen b) fun len q => len = strlen b ∧ 0 ∈ b ∧ R q :=
  .ite (fun hZero => .pure _ fun _ hR => ⟨rfl, hZero, hR⟩) fun _ => .fault _

theorem turns_copyString {src : Option (List UInt8)} {attach : List UInt8 → ReqMsg → ReqMsg}
    (h : ∀ (b : List UInt8) q, 0 ∈ b → R q → S (attach (b.take (strlen b + 1)) q)) :
    Turns c R (copyString src attach) fun _ => S := by
  unfold copyString
  cases src with
  | none => exact .fault _
  | some b =>
    refine (turns_cLen b).bind fun len => turns_rpcReqCopyBytes (fun hNone => ?_) ?_
    · rcases hNone with hNone | hZero
      · cases hNone
      · omega
    · rintro b' q hb - ⟨rfl, hZero, hR⟩
      obtain rfl : b = b' := by simpa using hb
      exact h b q hZero hR

/-- A string that fits is sent with its end. -/
theorem turns_ended {b : List UInt8} {maxSize : Nat} {attach : List UInt8 → ReqMsg → ReqMsg}
    (hMax : 0 < maxSize)
    (h : ∀ q, 0 ∈ b → R q → S (attach (b.take (min (strlen b + 1) maxSize)) q)) :
    Turns c R (rpcReqCopyStr b maxSize attach) fun _ => S := by
  refine (turns_cLen b).bind fun len => turns_rpcReqCopyBytes (fun hNone => ?_) ?_
  · rcases hNone with hNone | hZero
    · cases hNone
    · omega
  · rintro b' q hb - ⟨rfl, hZero, hR⟩
    obtain rfl : b = b' := by simpa using hb
    exact h q hZero hR

theorem turns_rpcReqCopyStr {b : List UInt8} {maxSize : Nat}
    {attach : List UInt8 → ReqMsg → ReqMsg} (h : ∀ b q, R q → R (attach b q)) :
    Turns c R (rpcReqCopyStr b maxSize attach) fun _ => R :=
  (turns_cLen b).bind fun _ => (turns_attach h).mono (fun _ hq => hq.2.2) fun _ _ hq => hq

theorem turns_element {f : ReqField} {fs : List ReqField} :
    Turns c R (element calloc a f fs) fun _ q => (q.sub f).isSome :=
  (turns_rpcAllocElement (S := fun q => (q.sub f).isSome) fun q _ => by simp).bind fun _ =>
    .edit _ fun q hq => by simpa using hq

end Steps

/-! ## Texts with a length beside them -/

theorem int32_lt (x : Int) : int32 x < 2147483648 := Int.bmod_lt (by decide)

theorem u32_int32 (x : Int) : u32 (int32 x) = u32 x := Int.bmod_emod

/-- A length that is positive as an `int` is the same as a `size_t`. -/
theorem toNat_int32 {x : Int} (h : 0 < int32 x) : (int32 x).toNat = sizeT x := by
  have hLt := int32_lt x
  have hSame : int32 x % 4294967296 = x % 4294967296 := u32_int32 x
  unfold sizeT u32
  rw [← hSame, Int.emod_eq_of_lt (by omega) (by omega)]

/-- A text: its bytes and its length in the arguments, and both in the message. -/
structure Text where
  src : ReqField
  lenSrc : ReqField
  dst : ReqField
  lenDst : ReqField

/-- A text is sent in full or not at all, with its length. -/
structure Sent (a : AppReq) (t : Text) (q : ReqMsg) : Prop where
  len : q.num t.lenDst = int32 (a.num t.lenSrc)
  bytes : q.bytes t.dst = [] ∨ (q.bytes t.dst).length = sizeT (a.num t.lenSrc)

/-- The texts `ts` are sent, and nothing else is so far. -/
structure Written (a : AppReq) (ts : List Text) (q : ReqMsg) : Prop where
  sent : ∀ t ∈ ts, Sent a t q
  blank : ∀ f, f ∉ ts.map Text.dst → q.bytes f = []

section Texts

variable {a : AppReq} {c : Call} {env : CpEnv} {q : ReqMsg} {t : Text} {ts : List Text}

theorem Sent.textFits (h : Sent a t q) : TextFits env q t.dst t.lenDst := by
  intro hSome hPos _
  rw [h.len] at hPos ⊢
  rw [toNat_int32 hPos, h.bytes.resolve_left hSome]

theorem Sent.certFits (h : Sent a t q) (hSome : q.bytes t.dst ≠ []) :
    CertFits env q t.dst t.lenDst := by
  intro _ _
  rw [h.len, u32_int32, h.bytes.resolve_left hSome]
  exact Nat.le_refl _

/-- A certificate that is not there has no length, unless that is negative. -/
theorem Sent.certFits_of_nonneg (h : Sent a t q) (hLen : 0 ≤ int32 (a.num t.lenSrc))
    (hMatch : ¬mismatched q t.dst t.lenDst) : CertFits env q t.dst t.lenDst := by
  by_cases hNone : q.bytes t.dst = []
  · have hZero : q.num t.lenDst = 0 := by
      have hNotPos : ¬0 < q.num t.lenDst := fun hPos => hMatch (.inr ⟨hPos, hNone⟩)
      rw [← h.len] at hLen
      omega
    intro hNe
    simp [hZero, u32] at hNe
  · exact h.certFits hNone

theorem Written.withBytes {b : List UInt8} (h : Written a ts q) (hDst : t.dst ∉ ts.map Text.dst)
    (hLen : t.lenDst ∉ ts.map Text.lenDst) (hb : b = [] ∨ b.length = sizeT (a.num t.lenSrc)) :
    Written a (t :: ts) ((q.withBytes t.dst b).withNum t.lenDst (int32 (a.num t.lenSrc))) where
  sent := by
    intro u hu
    rcases List.mem_cons.mp hu with rfl | hOld
    · exact ⟨by simp, by simpa using hb⟩
    · have hDst' : u.dst ≠ t.dst := fun hEq => hDst (hEq ▸ List.mem_map_of_mem hOld)
      have hLen' : u.lenDst ≠ t.lenDst := fun hEq => hLen (hEq ▸ List.mem_map_of_mem hOld)
      have hSent := h.sent u hOld
      exact ⟨by simpa [hLen'] using hSent.len, by simpa [hDst'] using hSent.bytes⟩
  blank := by
    intro f hf
    rw [List.map_cons, List.mem_cons, not_or] at hf
    simpa [hf.1] using h.blank f hf.2

theorem turns_copyText (t : Text) (ts : List Text) (hDst : t.dst ∉ ts.map Text.dst)
    (hLen : t.lenDst ∉ ts.map Text.lenDst) :
    Turns c (Written a ts) (copyText a t.src t.dst t.lenSrc t.lenDst) fun _ =>
      Written a (t :: ts) := by
  refine Turns.bind (S := fun _ q => ∃ q' b, Written a ts q' ∧
    (b = [] ∨ b.length = sizeT (a.num t.lenSrc)) ∧ q = q'.withBytes t.dst b) ?_ fun _ => ?_
  · apply turns_rpcReqCopyBytes
    · intro _ q hq
      exact ⟨q, [], hq, .inl rfl, (q.withBytes_nil t.dst (hq.blank _ hDst)).symm⟩
    · intro b q _ hSize hq
      exact ⟨q, b.take (sizeT (a.num t.lenSrc)), hq, .inr (by simp [hSize]), rfl⟩
  · refine .edit _ ?_
    rintro q ⟨q', b, hq, hb, rfl⟩
    exact hq.withBytes hDst hLen hb

end Texts

/-! ## The cases -/

/-- A new payload, but for numbers. -/
structure Blank (q : ReqMsg) : Prop where
  bytes : ∀ f, q.bytes f = []
  sub : ∀ f, q.sub f = none

/-- A composed request has a payload of its call, which satisfies `S`. -/
def Makes (c : Call) (p : Composer Unit) (S : ReqMsg → Prop) : Prop :=
  wp p (fun _ _ => True) (fun _ => True)
    (fun _ m => ∃ q, m.store.payload = some (.req c, q) ∧ S q) { store := {} }

/-- What is sent of an SSID to scan for. -/
def ssidSent (a : AppReq) (b : List UInt8) : List UInt8 :=
  b.take (min (if a.num .len ≠ 0 then sizeT (a.num .len) else min (strlen b + 1) 32) 32)

/-- The texts of `rpc_set_dhcp_dns_status_t`, in arrays of 64 bytes. -/
def addressTexts : List ReqField := [.dhcpIp, .dhcpNm, .dhcpGw, .dnsIp]

/-- What the application has to see to: that a key for DPP has an end among the 32 bytes that are
sent and an SSID to scan for among its own, that addresses are in their arrays, and that no length
of a client certificate is negative. -/
structure Careful (a : AppReq) : Prop where
  key : reqCall a.msgId = some .suppDppBootstrapGen → ∀ b, a.ptr .key = some b → 0 ∈ b.take 32
  ssid : reqCall a.msgId = some .wifiScanStart → ∀ b, a.ptr .ssid = some b →
    Terminated (ssidSent a b)
  addresses : reqCall a.msgId = some .setDhcpDnsStatus →
    ∀ f ∈ addressTexts, (a.arr f).length ≤ 64
  lengths : reqCall a.msgId = some .eapSetCertificateAndKey →
    0 ≤ int32 (a.num .clientCertLen) ∧ 0 ≤ int32 (a.num .privateKeyLen) ∧
      0 ≤ int32 (a.num .privateKeyPasswdLen)

/-- The driver takes the addresses for the station, if there are any. -/
def AddressesTaken (env : CpEnv) (a : AppReq) : Prop :=
  reqCall a.msgId = some .setDhcpDnsStatus → env.networkSplit = true →
    a.num .dhcpUp % 256 ≠ 0 → a.num .iface % 256 = 0 → env.setIpInfoRet = 0

section Cases

variable {calloc : Piece → Bool} {a : AppReq} {c : Call} {env : CpEnv}

theorem Makes.mono {p : Composer Unit} {S S' : ReqMsg → Prop} (h : Makes c p S)
    (hS : ∀ q, S q → S' q) : Makes c p S' :=
  wp_mono (fun _ _ h => h) (fun _ h => h) (fun _ _ ⟨q, hq, hSq⟩ => ⟨q, hq, hS q hSq⟩) h

theorem makes_member (h : hasPayload c = true) :
    Makes c (composeCall calloc a c) fun _ => True := by
  refine wp_mono (fun _ _ h => h) (fun _ _ => trivial) (fun _ m h => ?_)
    (opens_composeCall h { store := {} } rfl (by decide))
  obtain ⟨⟨b, q⟩, hq, hb⟩ := Option.map_eq_some_iff.mp h.2
  obtain rfl : b = .req c := hb
  exact ⟨q, hq, trivial⟩

theorem makes_assign {fs : List ReqField} {body : Composer Unit} {S : ReqMsg → Prop}
    (h : Turns c (fun q => Blank q ∧ q = ({} : ReqMsg).withNums a.num fs) body fun _ => S) :
    Makes c (assign calloc a c fs body) S := by
  unfold Makes assign rpcAllocAssign allocate addRpcBuffToFreeLater failWith
  simp only [wp_bind, wp_ite, wp_modify, wp_fail, wp_get, wp_need]
  split
  · split
    · exact h _ _ rfl ⟨⟨fun f => by simp, fun f => by simp⟩, rfl⟩
    · trivial
  · trivial

theorem makes_element {f : ReqField} {fs : List ReqField} :
    Makes c (assign calloc a c [] (element calloc a f fs)) fun q => (q.sub f).isSome :=
  makes_assign turns_element

/-- The configuration of a scan is there, with its times, and its bytes satisfy `S`. -/
def ScanThere (S : (ReqField → List UInt8) → Prop) (q : ReqMsg) : Prop :=
  ∃ config, q.sub .config = some config ∧ ScanTimeThere config ∧ S config.bytes

/-- A scan has its times, and its bytes satisfy `S`, if it has a configuration. -/
def ScanFits (S : (ReqField → List UInt8) → Prop) (q : ReqMsg) : Prop :=
  ∀ config, q.sub .config = some config → ScanTimeThere config ∧ S config.bytes

section Scan

variable {S S' : (ReqField → List UInt8) → Prop} {q : ReqMsg}

theorem ScanThere.fits (h : ScanThere S q) : ScanFits S q := by
  obtain ⟨config, hConfig, hReady⟩ := h
  intro config' hConfig'
  obtain rfl : config = config' := by simpa [hConfig] using hConfig'
  exact hReady

theorem Blank.scanFits (h : Blank q) : ScanFits S q := by
  intro config hConfig
  simp [h.sub] at hConfig

theorem ScanThere.withBytes {f : ReqField} {b : List UInt8} (h : ScanThere S q)
    (hBytes : ∀ bytes, S bytes → S' (Function.update bytes f b)) :
    ScanThere S' (q.inside .config (·.withBytes f b)) := by
  obtain ⟨config, hConfig, hTime, hS⟩ := h
  exact ⟨config.withBytes f b, by simp [hConfig], hTime, hBytes _ hS⟩

end Scan

/-- Nothing is there yet. -/
def NoBytes (bytes : ReqField → List UInt8) : Prop := ∀ f, bytes f = []

/-- The SSID is there or not, and the BSSID is not. -/
def SsidSent (bytes : ReqField → List UInt8) : Prop :=
  Terminated (bytes .ssid) ∧ bytes .bssid = []

/-- The SSID and the BSSID are what the driver takes them for. -/
def NamesSent (bytes : ReqField → List UInt8) : Prop :=
  Terminated (bytes .ssid) ∧ (bytes .bssid ≠ [] → 6 ≤ (bytes .bssid).length)

theorem turns_scanConfig {R : ReqMsg → Prop} :
    Turns c R (scanConfig calloc) fun _ => ScanThere NoBytes := by
  -- the configuration, its times, and the active ones among these
  refine Turns.bind (S := fun _ q => ∃ config, q.sub .config = some config ∧
    NoBytes config.bytes) ?_ fun _ => ?_
  · apply turns_rpcAllocElement
    intro q _
    exact ⟨{}, by simp, fun _ => rfl⟩
  refine Turns.bind (S := fun _ q => ∃ config t, q.sub .config = some config ∧
    config.sub .scanTime = some t ∧ NoBytes config.bytes) ?_ fun _ => ?_
  · apply turns_rpcAllocElement
    rintro q ⟨config, hConfig, hNone⟩
    exact ⟨config.withSub .scanTime {}, {}, by simp [hConfig], by simp, hNone⟩
  · apply turns_rpcAllocElement
    rintro q ⟨config, t, hConfig, hTime, hNone⟩
    exact ⟨config.inside .scanTime (·.withSub .active {}), by simp [hConfig],
      ⟨t.withSub .active {}, {}, by simp [hTime], by simp⟩, hNone⟩

theorem makes_wifiScanParams :
    Makes .wifiScanParams (wifiScanParams calloc a) (ScanFits NoBytes) := by
  refine makes_assign ?_
  refine .ite (fun _ => ?_) fun _ => ?_
  · refine turns_scanConfig.bind fun _ => ?_
    exact .edit _ fun _ hq => hq.fits
  · exact .edit _ fun _ hq => hq.1.scanFits

theorem NoBytes.ssidSent {bytes : ReqField → List UInt8} (h : NoBytes bytes) : SsidSent bytes :=
  ⟨fun hSome => absurd (h .ssid) hSome, h .bssid⟩

theorem SsidSent.namesSent {bytes : ReqField → List UInt8} (h : SsidSent bytes) :
    NamesSent bytes :=
  ⟨h.1, fun hSome => absurd h.2 hSome⟩

theorem turns_scanSsid (hSsid : ∀ b, a.ptr .ssid = some b → Terminated (ssidSent a b)) :
    Turns c (ScanThere NoBytes) (scanSsid a) fun _ => ScanThere SsidSent := by
  unfold scanSsid
  cases hPtr : a.ptr .ssid with
  | none =>
    refine .pure () fun q hq => ?_
    obtain ⟨config, hConfig, hTime, hNone⟩ := hq
    exact ⟨config, hConfig, hTime, hNone.ssidSent⟩
  | some b =>
    have hEnd := hSsid b hPtr
    unfold ssidSent at hEnd
    refine Turns.bind (S := fun size q => ScanThere NoBytes q ∧
      Terminated (b.take (min size 32))) ?_ fun size => ?_
    · unfold ssidSize
      refine .ite (fun hLen => ?_) fun hLen => ?_
      · rw [if_pos hLen] at hEnd
        exact .pure _ fun _ hq => ⟨hq, hEnd⟩
      · rw [if_neg hLen] at hEnd
        refine (turns_cLen b).bind fun len => .pure _ ?_
        rintro q ⟨rfl, -, hq⟩
        exact ⟨hq, hEnd⟩
    · refine turns_rpcReqCopyBytes ?_ ?_
      · rintro - q ⟨⟨config, hConfig, hTime, hNone⟩, -⟩
        exact ⟨config, hConfig, hTime, hNone.ssidSent⟩
      · rintro b' q hb - ⟨hq, hEnd⟩
        obtain rfl : b = b' := by simpa using hb
        refine hq.withBytes fun bytes hNone => ⟨?_, ?_⟩
        · simpa using hEnd
        · simpa using hNone .bssid

theorem turns_scanBssid :
    Turns c (ScanThere SsidSent) (rpcReqCopyBytes (a.ptr .bssid) 6 fun b =>
      .inside .config (·.withBytes .bssid b)) fun _ => ScanThere NamesSent := by
  refine turns_rpcReqCopyBytes ?_ ?_
  · rintro - q ⟨config, hConfig, hTime, hSsid⟩
    exact ⟨config, hConfig, hTime, hSsid.namesSent⟩
  · intro b q _ hLen hq
    refine hq.withBytes fun bytes hSsid => ⟨?_, fun _ => ?_⟩
    · simpa using hSsid.1
    · simp [hLen]

theorem makes_wifiScanStart (hSsid : ∀ b, a.ptr .ssid = some b → Terminated (ssidSent a b)) :
    Makes .wifiScanStart (wifiScanStart calloc a) (ScanFits NamesSent) := by
  refine makes_assign ?_
  refine .ite (fun _ => ?_) fun _ => ?_
  · refine turns_scanConfig.bind fun _ => ?_
    refine (turns_scanSsid hSsid).bind fun _ => ?_
    refine turns_scanBssid.bind fun _ => ?_
    exact .edit _ fun _ hq => hq.fits
  · exact .pure () fun _ hq => hq.1.scanFits

/-- The configuration is for the interface that the application named, and its union holds `b`. -/
structure Holds (a : AppReq) (b : ReqField) (q : ReqMsg) : Prop where
  iface : q.num .iface = a.num .iface
  member : ∀ cfg, q.sub .cfg = some cfg → ∃ x, cfg.oneof = some (b, x)

theorem Holds.inside {b : ReqField} {q : ReqMsg} (h : Holds a b q) (g : ReqMsg → ReqMsg) :
    Holds a b (q.inside .cfg (.insideOneof g)) where
  iface := h.iface
  member cfg hCfg := by
    simp only [ReqMsg.inside_sub, if_true] at hCfg
    obtain ⟨cfg', hCfg', rfl⟩ := Option.map_eq_some_iff.mp hCfg
    obtain ⟨x, hx⟩ := h.member cfg' hCfg'
    exact ⟨g x, by simp [ReqMsg.insideOneof, hx]⟩

theorem turns_member (b : ReqField) :
    Turns c (fun q => q.num .iface = a.num .iface) (rpcAllocElement calloc b
      (.inside .cfg fun cfg => { cfg with oneof := some (b, {}) })) fun _ => Holds a b := by
  refine turns_rpcAllocElement fun q hq => ⟨hq, ?_⟩
  intro cfg hCfg
  simp only [ReqMsg.inside_sub, if_true] at hCfg
  obtain ⟨cfg', -, rfl⟩ := Option.map_eq_some_iff.mp hCfg
  exact ⟨{}, rfl⟩

theorem turns_staConfig :
    Turns c (fun q => q.num .iface = a.num .iface) (staConfig calloc a) fun _ =>
      Holds a .sta := by
  refine (turns_member .sta).bind fun _ => ?_
  refine (turns_rpcReqCopyStr fun _ _ hq => hq.inside _).bind fun _ => ?_
  refine (turns_rpcReqCopyStr fun _ _ hq => hq.inside _).bind fun _ => ?_
  refine (Turns.edit _ fun _ hq => hq.inside _).bind fun _ => ?_
  refine (turns_attach fun _ _ hq => hq.inside _).bind fun _ => ?_
  exact turns_rpcAllocElement fun _ hq => hq.inside _

theorem turns_apConfig :
    Turns c (fun q => q.num .iface = a.num .iface) (apConfig calloc a) fun _ => Holds a .ap := by
  refine (turns_member .ap).bind fun _ => ?_
  refine (turns_rpcReqCopyStr fun _ _ hq => hq.inside _).bind fun _ => ?_
  exact turns_rpcReqCopyStr fun _ _ hq => hq.inside _

theorem makes_wifiSetConfig : Makes .wifiSetConfig (wifiSetConfig calloc a) SetConfigReads := by
  refine makes_assign ?_
  refine Turns.bind (S := fun _ q => q.num .iface = a.num .iface) ?_ fun _ => ?_
  · apply turns_rpcAllocElement
    rintro q ⟨-, rfl⟩
    simp [ReqMsg.withNums]
  refine .ite (fun hSta => ?_) fun hSta => ?_
  · refine turns_staConfig.mono (fun _ hq => hq) ?_
    intro _ q hq cfg hCfg
    obtain ⟨x, hx⟩ := hq.member cfg hCfg
    refine ⟨fun _ => by simp [ReqMsg.unionMember, hx], fun hOne => ?_⟩
    rw [hq.iface, hSta] at hOne
    cases hOne
  refine .ite (fun hAp => ?_) fun hAp => ?_
  · refine turns_apConfig.mono (fun _ hq => hq) ?_
    intro _ q hq cfg hCfg
    obtain ⟨x, hx⟩ := hq.member cfg hCfg
    refine ⟨fun hZero => ?_, fun _ => by simp [ReqMsg.unionMember, hx]⟩
    rw [hq.iface, hAp] at hZero
    cases hZero
  · refine .pure () ?_
    intro q hq cfg _
    rw [hq]
    exact ⟨fun hZero => absurd hZero hSta, fun hOne => absurd hOne hAp⟩

/-- The strings that are sent have an end. -/
def Ended (q : ReqMsg) : Prop := ∀ f, Terminated (q.bytes f)

theorem Blank.ended {q : ReqMsg} (h : Blank q) : Ended q := fun f hSome => absurd (h.bytes f) hSome

theorem Ended.withBytes {q : ReqMsg} {b : List UInt8} (h : Ended q) (hb : 0 ∈ b) (f : ReqField) :
    Ended (q.withBytes f b) := by
  intro g
  rw [ReqMsg.withBytes_bytes]
  split
  · exact fun _ => hb
  · exact h g

/-- The end of a string is among the bytes that are copied. -/
theorem zero_mem_take {b : List UInt8} (h : 0 ∈ b) : 0 ∈ b.take (strlen b + 1) := by
  induction b with
  | nil => cases h
  | cons x b ih =>
    by_cases hx : x = 0
    · simp [hx]
    · have hLen : strlen (x :: b) = strlen b + 1 := by simp [strlen, hx]
      have hIn : 0 ∈ b := (List.mem_cons.mp h).resolve_left fun hEq => hx hEq.symm
      rw [hLen, List.take_succ_cons]
      exact List.mem_cons_of_mem x (ih hIn)

/-- An array of 64 bytes that holds a text is sent with the end of the text. -/
theorem addressEnds_take {b : List UInt8} (h : 0 ∈ b) (hLen : b.length ≤ 64) :
    AddressEnds (b.take (min (strlen b + 1) 64)) := by
  have hShort : strlen b < 64 := strlen_lt hLen (.inr h)
  rw [Nat.min_eq_left hShort]
  refine .inr ?_
  rw [List.take_of_length_le (by rw [List.length_take]; omega)]
  exact zero_mem_take h

/-- The addresses have an end, and the numbers are those of the arguments. -/
structure Addressed (a : AppReq) (q : ReqMsg) : Prop where
  texts : ∀ f, AddressEnds (q.bytes f)
  iface : q.num .iface = a.num .iface
  dhcpUp : q.num .dhcpUp = a.num .dhcpUp

theorem turns_address {f g : ReqField} (hLen : (a.arr f).length ≤ 64) :
    Turns c (Addressed a) (rpcReqCopyStr (a.arr f) 64 fun b p => p.withBytes g b) fun _ =>
      Addressed a := by
  refine turns_ended (by decide) fun q hZero hq => ⟨fun g' => ?_, hq.iface, hq.dhcpUp⟩
  rw [ReqMsg.withBytes_bytes]
  split
  · exact addressEnds_take hZero hLen
  · exact hq.texts g'

theorem makes_setDhcpDnsStatus (hLen : ∀ f ∈ addressTexts, (a.arr f).length ≤ 64) :
    Makes .setDhcpDnsStatus (setDhcpDnsStatus calloc a) (Addressed a) := by
  have hAddress (f : ReqField) (hf : f ∈ addressTexts) :
      Turns .setDhcpDnsStatus (Addressed a) (rpcReqCopyStr (a.arr f) 64 fun b p =>
        p.withBytes f b) fun _ => Addressed a := turns_address (hLen f hf)
  refine makes_assign ?_
  refine ((hAddress .dhcpIp (by decide)).mono ?_ fun _ _ hq => hq).bind fun _ => ?_
  · rintro q ⟨hBlank, rfl⟩
    refine ⟨fun f => .inl ?_, ?_, ?_⟩
    · rw [hBlank.bytes f]
      decide
    · simp [ReqMsg.withNums]
    · simp [ReqMsg.withNums]
  refine (hAddress .dhcpNm (by decide)).bind fun _ => ?_
  refine (hAddress .dhcpGw (by decide)).bind fun _ => ?_
  exact hAddress .dnsIp (by decide)

theorem Addressed.inside {q : ReqMsg} (h : Addressed a q) (hTaken : AddressesTaken env a)
    (hCall : reqCall a.msgId = some .setDhcpDnsStatus) : ReqInside env .setDhcpDnsStatus q := by
  refine fun hSplit => ⟨fun hUp hSta => ?_, fun _ _ _ => h.texts .dnsIp⟩
  rw [h.dhcpUp] at hUp
  rw [h.iface] at hSta
  exact ⟨h.texts .dhcpIp, h.texts .dhcpNm, h.texts .dhcpGw, hTaken hCall hSplit hUp hSta⟩

theorem turns_string {src : Option (List UInt8)} (f : ReqField) :
    Turns c Ended (copyString src fun b p => p.withBytes f b) fun _ => Ended :=
  turns_copyString fun _ _ hZero hq => hq.withBytes (zero_mem_take hZero) f

theorem makes_eapSetDomainName :
    Makes .eapSetDomainName (composeCall calloc a .eapSetDomainName) Ended :=
  makes_assign ((turns_string .domainName).mono (fun _ hq => hq.1.ended) fun _ _ hq => hq)

theorem makes_suppDppBootstrapGen (hKey : ∀ b, a.ptr .key = some b → 0 ∈ b.take 32) :
    Makes .suppDppBootstrapGen (suppDppBootstrapGen calloc a) Ended := by
  refine makes_assign ?_
  refine ((turns_string .chanList).mono (fun _ hq => hq.1.ended) fun _ _ hq => hq).bind fun _ => ?_
  refine (turns_rpcReqCopyBytes (fun _ _ hq => hq) ?_).bind fun _ => ?_
  · intro b q hb _ hq
    exact hq.withBytes (hKey b hb) .key
  · refine .ite (fun _ => turns_string .info) fun _ => ?_
    exact .pure () fun _ hq => hq

/-- A request whose payload is a text. -/
theorem makes_text (t : Text) :
    Makes c (assign calloc a c [] (copyText a t.src t.dst t.lenSrc t.lenDst)) (Sent a t) := by
  refine makes_assign ?_
  refine (turns_copyText t [] (by simp) (by simp)).mono (fun q hq => ?_) fun _ q hq => ?_
  · exact ⟨by simp, fun f _ => hq.1.bytes f⟩
  · exact hq.sent t (by simp)

def clientCert : Text := ⟨.clientCert, .clientCertLen, .clientCert, .clientCertLen⟩
def privateKey : Text := ⟨.privateKey, .privateKeyLen, .privateKey, .privateKeyLen⟩

def privateKeyPassword : Text :=
  ⟨.privateKeyPassword, .privateKeyPasswdLen, .privateKeyPassword, .privateKeyPasswdLen⟩

theorem makes_eapSetCertificateAndKey :
    Makes .eapSetCertificateAndKey (eapSetCertificateAndKey calloc a)
      (Written a [privateKeyPassword, privateKey, clientCert]) := by
  refine makes_assign ?_
  refine ((turns_copyText clientCert [] (by simp) (by simp)).mono (fun q hq => ?_)
    fun _ _ hq => hq).bind fun _ => ?_
  · exact ⟨by simp, fun f _ => hq.1.bytes f⟩
  refine (turns_copyText privateKey _ (by decide) (by decide)).bind fun _ => ?_
  exact turns_copyText privateKeyPassword _ (by decide) (by decide)

theorem Written.certAndKeyFits {q : ReqMsg}
    (h : Written a [privateKeyPassword, privateKey, clientCert] q)
    (hCert : 0 ≤ int32 (a.num .clientCertLen)) (hKey : 0 ≤ int32 (a.num .privateKeyLen))
    (hPassword : 0 ≤ int32 (a.num .privateKeyPasswdLen)) : CertAndKeyFits env q := by
  intro hCertMatch hKeyMatch hPasswordMatch
  have hCertSent : Sent a clientCert q := h.sent clientCert (by simp)
  have hKeySent : Sent a privateKey q := h.sent privateKey (by simp)
  have hPasswordSent : Sent a privateKeyPassword q := h.sent privateKeyPassword (by simp)
  refine ⟨hCertSent.certFits_of_nonneg hCert hCertMatch, fun _ => ?_⟩
  refine ⟨hKeySent.certFits_of_nonneg hKey hKeyMatch, fun _ => ?_⟩
  exact hPasswordSent.certFits_of_nonneg hPassword hPasswordMatch

/-- Every case makes what its handler needs. -/
theorem makes_composeCall (h : Careful a) (hTaken : AddressesTaken env a)
    (hCall : reqCall a.msgId = some c) (hPayload : hasPayload c = true) :
    Makes c (composeCall calloc a c) (ReqInside env c) := by
  cases c
  case wifiSetConfig => exact makes_wifiSetConfig
  case wifiScanParams =>
    exact makes_wifiScanParams.mono fun _ hq _ _ config hConfig => (hq config hConfig).1
  case wifiScanStart => exact (makes_wifiScanStart (h.ssid hCall)).mono fun _ hq _ => hq
  case setDhcpDnsStatus =>
    exact (makes_setDhcpDnsStatus (h.addresses hCall)).mono fun _ hq => hq.inside hTaken hCall
  case wifiStaTwtConfig | wifiStaItwtSetup | eapSetFastParams | gpioConfig => exact makes_element
  case suppDppBootstrapGen =>
    exact (makes_suppDppBootstrapGen (h.key hCall)).mono fun _ hq => ⟨hq _, hq _, hq _⟩
  case eapSetDomainName => exact makes_eapSetDomainName.mono fun _ hq => hq _
  case eapSetIdentity =>
    exact (makes_text ⟨.identity, .len, .identity, .len⟩).mono fun _ hq => hq.textFits
  case eapSetUsername =>
    exact (makes_text ⟨.username, .len, .username, .len⟩).mono fun _ hq => hq.textFits
  case eapSetPassword =>
    exact (makes_text ⟨.password, .len, .password, .len⟩).mono fun _ hq => hq.textFits
  case eapSetNewPassword =>
    exact (makes_text ⟨.password, .len, .newPassword, .len⟩).mono fun _ hq => hq.textFits
  case eapSetPacFile =>
    exact (makes_text ⟨.pacFile, .len, .pacFile, .pacFileLen⟩).mono fun _ hq => hq.textFits
  case eapSetCaCert =>
    exact (makes_text ⟨.caCert, .len, .caCert, .caCertLen⟩).mono fun _ hq hSome _ =>
      hq.certFits hSome
  case eapSetCertificateAndKey =>
    obtain ⟨hCert, hKey, hPassword⟩ := h.lengths hCall
    exact makes_eapSetCertificateAndKey.mono fun _ hq => hq.certAndKeyFits hCert hKey hPassword
  all_goals first
    | exact makes_member hPayload
    | cases hPayload

end Cases

/-! ## On the co-processor -/

/-- The request as it is sent. -/
def request (a : AppReq) (d : Draft) : ReqRpc := ⟨a.msgId, a.uid, d.payload⟩

section Main

variable {calloc : Piece → Bool} {a : AppReq} {c : Call} {env : CpEnv}

theorem reqId_bounds (c : Call) : reqBase < c.reqId ∧ c.reqId < reqMax := by
  cases c <;> decide

theorem lookup_request (d : Draft) (h : reqCall a.msgId = some c) :
    lookupReqHandler (request a d) = some c := by
  have hId : c.reqId = a.msgId := by simpa using List.find?_some h
  have hBounds := reqId_bounds c
  unfold lookupReqHandler
  rw [if_neg]
  · exact h
  · change ¬(a.msgId ≤ reqBase ∨ reqMax ≤ a.msgId)
    omega

/-- A handler that finds what it needs. -/
theorem inBounds_of_callInside {rpc : ReqRpc}
    (h : ∀ c, lookupReqHandler rpc = some c → CallInside env rpc c) :
    InBounds (dataTransferHandler env rpc) { store := none } := by
  cases hAlloc : env.calloc .rpc with
  | false => exact inBounds_unserved good_new (.inl hAlloc)
  | true =>
    cases hCall : lookupReqHandler rpc with
    | none => exact inBounds_unserved good_new (.inr hCall)
    | some c => exact (inBounds_handler good_new hAlloc hCall).mpr (h c hCall)

/-- What a request is composed to: the handler finds what it needs, and a payload where it tests for
one. -/
structure Composed (env : CpEnv) (a : AppReq) (c : Call) (d : Draft) : Prop where
  inside : CallInside env (request a d) c
  tested : c.opening env = .tested → d.payload ≠ none

theorem Composed.ofPayload {d : Draft} {q : ReqMsg} (hq : d.payload = some (.req c, q))
    (hInside : ReqInside env c q) : Composed env a c d where
  inside := by
    intro _
    cases c.opening env with
    | tested =>
      rintro b p (hp : d.payload = some (b, p))
      obtain ⟨rfl, rfl⟩ : Member.req c = b ∧ q = p := by simpa [hq] using hp
      exact ⟨rfl, hInside⟩
    | blind => exact ⟨q, hq⟩
    | simple => trivial
  tested _ hNone := by simp [hq] at hNone

theorem Composed.ofSimple {d : Draft} (h : c.opening env = .simple) : Composed env a c d where
  inside _ := by
    rw [h]
    trivial
  tested hTested := by
    rw [h] at hTested
    cases hTested

/-- A call without a payload has a handler that looks for none. -/
theorem opening_plain (h : hasPayload c = false) (hSent : c ≠ .getDhcpDnsStatus) :
    c.opening env = .simple := by
  cases c <;> first
    | rfl
    | exact absurd rfl hSent
    | cases h

theorem Composed.inBounds {d : Draft} (h : Composed env a c d) (hCall : reqCall a.msgId = some c) :
    InBounds (dataTransferHandler env (request a d)) { store := none } := by
  refine inBounds_of_callInside fun c' hc => ?_
  obtain rfl : c = c' := by simpa [lookup_request d hCall] using hc
  exact h.inside

theorem composed_composeRpcReq (env : CpEnv) (h : Careful a) (hTaken : AddressesTaken env a)
    (hCall : reqCall a.msgId = some c) :
    wp (composeRpcReq calloc a) (fun _ _ => True) (fun _ => True)
      (fun _ m => Composed env a c m.store) { store := {} } := by
  unfold composeRpcReq
  rw [hCall]
  change wp (composeCall calloc a c) _ _ _ _
  cases hPayload : hasPayload c with
  | true =>
    exact wp_mono (fun _ _ h => h) (fun _ h => h)
      (fun _ _ ⟨q, hq, hInside⟩ => .ofPayload hq hInside)
      (makes_composeCall h hTaken hCall hPayload)
  | false =>
    by_cases hDhcp : c = .getDhcpDnsStatus
    · subst hDhcp
      trivial
    · have hSimple : c.opening env = .simple := opening_plain hPayload hDhcp
      rcases composeCall_plain calloc a hPayload with hNone | hFail
      · rw [hNone]
        exact .ofSimple hSimple
      · rw [hFail]
        trivial

/-- A key for DPP that ends among its 32 bytes. -/
def bootstrap : AppReq where
  msgId := Call.suppDppBootstrapGen.reqId
  uid := 4
  ptr f := match f with
    | .chanList => some [54, 0]
    | .key => some (List.replicate 32 0)
    | _ => none

/-- A client certificate that is not there, with a negative length. -/
def noCertificate : AppReq where
  msgId := Call.eapSetCertificateAndKey.reqId
  uid := 5
  num f := if f = .clientCertLen then -1 else 0

example : ∃ m, composeRpcReq (fun _ => true) noCertificate { store := {} } = .done () m ∧
    ¬InBounds (dataTransferHandler board (request noCertificate m.store)) { store := none } :=
  ⟨_, rfl, by decide⟩

/-- None of the calls that need care is one that is handed to the driver. -/
theorem careful_of_forwarded (hCall : reqCall a.msgId = some c) (hForwarded : c.forwarded = true) :
    Careful a := by
  constructor
  all_goals
    intro hOther
    rw [hCall] at hOther
    cases hOther
    cases hForwarded

/-- For a call that the co-processor hands to its driver the application gets what the driver
returned, and success if the co-processor had no memory for the response. -/
theorem status_composed (calloc : Piece → Bool) (env : CpEnv) (henv : HostEnv)
    (hCall : reqCall a.msgId = some c) (hForwarded : c.forwarded = true)
    (hOwn : c.readsOther = false) :
    wp (composeRpcReq calloc a) (fun _ _ => True) (fun _ => True)
      (fun _ m => ∀ reply m', dataTransferHandler env (request a m.store) { store := none } =
          .done (some reply) m' →
        wp (rpcParseRsp henv reply) (fun _ _ => False) (fun _ => False)
          (fun _ b => rpcRspCallback (some b.store) = if env.calloc .resp then env.ret else hOk)
          { store := {} }) { store := {} } := by
  have hTaken : AddressesTaken env a := by
    intro hDhcp
    rw [hCall] at hDhcp
    cases hDhcp
    cases hForwarded
  refine wp_mono (fun _ _ h => h) (fun _ h => h) (fun _ m hm reply m' hRun => ?_)
    (composed_composeRpcReq env (careful_of_forwarded hCall hForwarded) hTaken hCall)
  have hLookup := lookup_request m.store hCall
  have hReplies := replies_dataTransferHandler rfl good_new (hm.inBounds hCall) hRun
  refine wp_mono (fun _ _ h => h) (fun _ h => h) (fun _ b hb => ?_)
    (status_of_replies_forwarded hReplies hLookup hForwarded hOwn)
  by_cases hAlloc : env.calloc .resp = true
  · rw [if_pos hAlloc]
    exact hb.1 ⟨hAlloc, hm.tested⟩
  · rw [if_neg hAlloc]
    exact hb.2 fun hAnswered => hAlloc hAnswered.1

/-- A start of the driver. -/
def startWifi : AppReq where
  msgId := Call.wifiStart.reqId
  uid := 6

/-- The application gets the error of the driver. -/
theorem status_startWifi : ∃ m reply m',
    composeRpcReq (fun _ => true) startWifi { store := {} } = .done () m ∧
      dataTransferHandler notInitialised (request startWifi m.store) { store := none } =
        .done (some reply) m' ∧
      wp (rpcParseRsp {} reply) (fun _ _ => False) (fun _ => False)
        (fun _ b => rpcRspCallback (some b.store) = espErrWifiNotInit) { store := {} } := by
  obtain ⟨m, hRun⟩ : ∃ m, composeRpcReq (fun _ => true) startWifi { store := {} } = .done () m :=
    ⟨_, rfl⟩
  have hStatus := status_composed (fun _ => true) notInitialised {}
    (show reqCall startWifi.msgId = some .wifiStart by decide) rfl rfl
  rw [wp, hRun] at hStatus
  obtain ⟨reply, m', hServed⟩ : ∃ reply m',
      dataTransferHandler notInitialised (request startWifi m.store) { store := none } =
        .done (some reply) m' := by
    cases hRun
    exact ⟨_, _, rfl⟩
  exact ⟨m, reply, m', hRun, hServed, hStatus reply m' hServed⟩

end Main

end EspHosted.Codec.Compose
