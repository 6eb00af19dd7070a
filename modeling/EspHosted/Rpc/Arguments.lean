import EspHosted.Rpc.Requests
import Mathlib.Data.List.TakeDrop
import Mathlib.Tactic.Tauto

/-!
# Arguments that arrive

* `delivered_eq_direct`: an argument whose fields lose nothing arrives as in a direct call;
* `plain_iff`, `wifiInit_iff`, `setConfig_iff`, `scanConfig_iff`, `calls_iff`, `mac_iff`: which
  requests arrive;
* `arrives_iff_sound`: which wrappers call the driver with their arguments.
-/

namespace EspHosted.Rpc.Arguments

open CInt Wifi Wifi.ConfigCodec Wifi.ConfigRoundTrip Requests

variable {env : Env}

/-! ## Conditions -/

/-- What is not 0 and not copied, or not copied whole, is not asked for. -/
def Kept (env : Env) : Wrapper → List Val → Prop
  | .wifiGetProtocol, [.int ifx] => ifx = 0
  | .wifiSetCountryCode, [.text (some country), _] => country.length ≤ 2
  | .wifiStaTwtConfig, [_, .int keepAlive] => env.twtKeepAlive = true ∨ keepAlive = 0
  | .ifaceSetMemMonitor, .int config :: _ => config ≤ 2
  | _, _ => True

/-- When a request that is given by the ways of its arguments arrives. -/
structure PlainSound (env : Env) (w : Wrapper) (args : List Val) : Prop where
  function : w ≠ .eapClientSetNewPassword
  reached : w.reached env args = true
  kept : Kept env w args

/-- The terminator is among the bytes of the SSID that are sent. -/
def SsidEnds (c : ScanConfig) : Prop :=
  ∀ mem, c.ssid = some mem → if c.ssidLen = 0 then (mem.takeWhile (· ≠ 0)).length < 32
    else 0 ∈ mem.take (min c.ssidLen 32)

/-- A text that fits into an array of 64 bytes. -/
def Fits (s : Option (List UInt8)) : Prop := ∃ chars, s = some chars ∧ chars.length ≤ 63

/-- When a call arrives. -/
def Call.Sound (env : Env) (ib : ItwtCodec.Build) : Call → Prop
  | .plain w args => PlainSound env w args
  | .wifiInit c => env.initialized = false ∧ (env.nvsEnabled = true → c.nvsEnable = 1) ∧
      (env.cacheTxBuffer = true ∨ c.featureCaps = env.featureCaps)
  | .wifiSetConfig iface sta ap =>
    if iface = 0 then env.stationConnecting = false ∧ Terminated sta.ssid ∧ Terminated sta.password
    else iface = 1 ∧ Terminated ap.ssid ∧ Terminated ap.password
  | .wifiSetScanParameters _ => True
  | .wifiScanStart config _ => ∀ c, config = some c → SsidEnds c
  | .wifiStaItwtSetup c => c.Fits ib
  | .setDhcpDnsStatus d =>
    (d.dhcpUp ≠ 0 → env.networkSplit = true ∧ d.iface < 256 ∧ Fits d.dhcpIp ∧ Fits d.dhcpNm ∧
      Fits d.dhcpGw) ∧
    (d.dnsUp ≠ 0 → env.networkSplit = true ∧ d.iface < 256 ∧ Fits d.dnsIp)
  | .ifaceMacAddrSetGet set mac type =>
    set = true → mac ≠ [] ∧ mac.length = env.macAddrLen type

/-! ## Texts -/

theorem takeWhile_append_zero {s : List UInt8} (rest : List UInt8) (h : 0 ∉ s) :
    (s ++ 0 :: rest).takeWhile (· ≠ 0) = s := by
  rw [List.takeWhile_append_of_pos, List.takeWhile_cons_of_neg (by decide), List.append_nil]
  intro c hc
  exact decide_eq_true fun hZero => h (hZero ▸ hc)

theorem cString_append {s : List UInt8} (rest : List UInt8) (h : 0 ∉ s) :
    cString (s ++ 0 :: rest) = some s := by
  have hEnds : 0 ∈ s ++ 0 :: rest := List.mem_append_right s List.mem_cons_self
  rw [cString, if_pos hEnds, takeWhile_append_zero rest h]

theorem cString_terminated {s : List UInt8} (h : 0 ∉ s) : cString (terminated s) = some s :=
  cString_append [] h

/-- Two bytes of a text before a terminator. -/
theorem cString_two {s : List UInt8} (h : 0 ∉ s) :
    cString (terminated (((terminated s).take 3).take 2)) = some (s.take 2) := by
  have hTake : ((terminated s).take 3).take 2 = (s ++ [0]).take 2 := List.take_take
  have hShort : 0 ∉ s.take 2 := fun hMem => h (List.mem_of_mem_take hMem)
  rw [hTake]
  rcases Nat.lt_or_ge s.length 2 with hLt | hGe
  · rw [List.take_of_length_le (by rw [List.length_append]; exact hLt),
      List.take_of_length_le (Nat.le_of_lt hLt), terminated, List.append_assoc]
    exact cString_append [0] h
  · rw [List.take_append_of_le_length hGe]
    exact cString_terminated hShort

theorem reqCopyBytes_length {bytes : List UInt8} (h : bytes.length ≠ 0) :
    reqCopyBytes (some bytes) bytes.length = some bytes := by
  rw [reqCopyBytes, if_neg h, Option.map_some, List.take_length]

theorem reqCopyBytes_none (size : Nat) : reqCopyBytes none size = none := by
  rw [reqCopyBytes, Option.map_none, ite_self]

theorem dhcpText_none : dhcpText none = some [] := rfl

theorem dhcpText_some {s : List UInt8} (h : 0 ∉ s) : dhcpText (some s) = some (s.take 63) :=
  cString_terminated fun hMem => h (List.mem_of_mem_take hMem)

theorem dhcpText_eq_iff {s : Option (List UInt8)} (h : ∀ chars, s = some chars → 0 ∉ chars) :
    dhcpText s = s ↔ Fits s := by
  cases s with
  | none =>
    rw [dhcpText_none]
    constructor
    · intro hEq
      cases hEq
    · rintro ⟨_, hEq, -⟩
      cases hEq
  | some chars =>
    rw [dhcpText_some (h chars rfl), Option.some_inj, List.take_eq_self_iff]
    constructor
    · exact fun hLe => ⟨chars, rfl, hLe⟩
    · rintro ⟨_, hEq, hLe⟩
      cases hEq
      exact hLe

/-! ## Arguments -/

/-- No field on the way loses a value that is accepted. -/
def keepsAll : Field → Bool
  | .int t hops native => lossless t hops native
  | .array n | .optArray n => decide (n ≠ 0)
  | .ps | .bandwidth | .sized _ | .optSized _ | .text | .optText => true
  | .unset _ | .keepAlive | .mapped _ | .countryCode => false

theorem psToNative_holds (n : Int) : (CType.uint 8).Holds (psToNative n) := by
  unfold psToNative
  split
  · decide
  · split <;> decide

theorem bwToNative_holds (n : Int) : (CType.uint 8).Holds (bwToNative n) := by
  unfold bwToNative
  split <;> decide

theorem arrives_self {s t : CType} {hops : List CType} {n : Int} (hn : s.Holds n)
    (h : ∀ u ∈ t :: hops, s.within u = true) : arrives t hops n = n := by
  rw [List.forall_mem_cons] at h
  rw [arrives_of_within hn h.2]
  exact hn.mono h.1

theorem arrives_same {t : CType} {n : Int} (hn : t.Holds n) : arrives t [t, t] n = n := by
  have hOnce : t.convert n = n := hn
  rw [arrives, arrives, arrives, hOnce, hOnce, hOnce]

/-- A pointer and a length that are copied as they are. -/
theorem sized_some {t : CType} {bytes : List UInt8} {len : Int}
    (h : t.Holds len ∧ 0 < len ∧ len = bytes.length) :
    Val.sized (reqCopyBytes (some bytes) len.toNat) (arrives t [t, t] len) =
      .sized (some bytes) len := by
  obtain ⟨hHolds, hPos, rfl⟩ := h
  rw [arrives_same hHolds, Int.toNat_natCast, reqCopyBytes_length (by omega)]

theorem delivered_eq_direct {f : Field} {v : Val} (hAcc : f.Accepts v) (h : keepsAll f = true) :
    f.delivered env v = f.direct v := by
  cases f with
  | int t hops native =>
    cases v with
    | int n => exact congrArg Val.int (arrives_of_lossless hAcc h)
    | _ => exact absurd hAcc id
  | ps =>
    cases v with
    | int n => exact congrArg Val.int (arrives_self (psToNative_holds n) (by decide))
    | _ => exact absurd hAcc id
  | bandwidth =>
    cases v with
    | int n => exact congrArg Val.int (arrives_self (bwToNative_holds n) (by decide))
    | _ => exact absurd hAcc id
  | array k =>
    obtain _ | (_ | bytes) | _ | _ := v <;> try exact absurd hAcc id
    cases hAcc
    exact congrArg Val.array (reqCopyBytes_length (of_decide_eq_true h))
  | optArray k =>
    obtain _ | (_ | bytes) | _ | _ := v <;> try exact absurd hAcc id
    · exact congrArg Val.array (if_neg (of_decide_eq_true h))
    · cases hAcc
      exact congrArg Val.array (reqCopyBytes_length (of_decide_eq_true h))
  | sized t =>
    obtain _ | _ | ⟨_ | bytes, len⟩ | _ := v <;> try exact absurd hAcc id
    exact sized_some hAcc
  | optSized t =>
    obtain _ | _ | ⟨_ | bytes, len⟩ | _ := v <;> try exact absurd hAcc id
    · show Val.sized (reqCopyBytes none len.toNat) _ = _
      rw [reqCopyBytes_none, arrives_same hAcc.1]
      rfl
    · exact sized_some hAcc
  | text =>
    obtain _ | _ | _ | (_ | s) := v <;> try exact absurd hAcc id
    exact congrArg Val.text (cString_terminated hAcc)
  | optText =>
    obtain _ | _ | _ | (_ | s) := v <;> try exact absurd hAcc id
    · rfl
    · exact congrArg Val.text (cString_terminated hAcc)
  | unset _ => cases h
  | keepAlive => cases h
  | mapped _ => cases h
  | countryCode => cases h

theorem delivered_args {fs : List Field} {args : List Val} (hAcc : fs.Forall₂ Field.Accepts args)
    (h : ∀ f ∈ fs, keepsAll f = true) :
    fs.zipWith (Field.delivered env) args = fs.zipWith Field.direct args := by
  induction hAcc with
  | nil => rfl
  | cons hHead _ ih =>
    rw [List.forall_mem_cons] at h
    rw [List.zipWith_cons_cons, List.zipWith_cons_cons, delivered_eq_direct hHead h.1, ih h.2]

/-! ## Requests by the ways of their arguments -/

/-- The wrappers with a field that loses something. -/
def lossy : List Wrapper :=
  [.wifiGetConfig, .wifiGetProtocol, .wifiSetCountryCode, .wifiStaTwtConfig, .ifaceSetMemMonitor]

theorem keepsAll_or_lossy (w : Wrapper) : w ∈ lossy ∨ w.fields.all keepsAll = true := by
  cases w <;> decide

theorem called_eq_iff (w : Wrapper) : w.called = w ↔ w ≠ .eapClientSetNewPassword := by
  cases w <;> decide

theorem kept_of_not_lossy {w : Wrapper} {args : List Val} (h : w ∉ lossy) : Kept env w args := by
  cases w <;> trivial

theorem delivered_eq_some_iff {w : Wrapper} {args : List Val} :
    w.delivered env args = some (w.direct args) ↔ w ≠ .eapClientSetNewPassword ∧
      w.fields.zipWith (Field.delivered env) args = w.fields.zipWith Field.direct args ∧
      w.reached env (w.fields.zipWith (Field.delivered env) args) = true := by
  unfold Wrapper.delivered Wrapper.direct
  dsimp only
  rw [← called_eq_iff]
  split
  · rw [Option.some_inj, Prod.mk.injEq]
    tauto
  · constructor
    · intro h
      cases h
    · rintro ⟨-, -, h⟩
      contradiction

theorem reached_direct {w : Wrapper} {args : List Val} (hAcc : w.Accepts args) :
    w.reached env (w.fields.zipWith Field.direct args) = w.reached env args := by
  have hFields := hAcc.1
  cases w with
  | wifiGetConfig =>
    obtain _ | ⟨hIface, _ | _⟩ := hFields
    rename_i v
    cases v with
    | int n => exact congrArg (fun n => decide (n ≤ 1)) hIface
    | _ => exact absurd hIface id
  | eapClientSetCertificateAndKey =>
    obtain _ | ⟨-, _ | ⟨-, _ | ⟨hPassword, _ | _⟩⟩⟩ := hFields
    rename_i v
    cases v with
    | sized bytes len => rfl
    | _ => exact absurd hPassword id
  | _ => rfl

section
variable {v : Val}

theorem getProtocol_iff (h : (Field.unset enum).Accepts v) :
    Wrapper.delivered env .wifiGetProtocol [v] = some (Wrapper.direct .wifiGetProtocol [v]) ↔
      PlainSound env .wifiGetProtocol [v] := by
  cases v with
  | int n =>
    have hSelf : enum.convert n = n := h
    rw [delivered_eq_some_iff]
    show _ ∧ [Val.int 0] = [Val.int (enum.convert n)] ∧ true = true ↔ _
    rw [hSelf]
    constructor
    · rintro ⟨hFunction, hEq, hReached⟩
      cases hEq
      exact ⟨hFunction, hReached, rfl⟩
    · rintro ⟨hFunction, hReached, hZero⟩
      exact ⟨hFunction, by rw [show n = 0 from hZero], hReached⟩
  | _ => exact absurd h id

theorem getConfig_iff (h : (Field.int enum [u8, i32] enum).Accepts v) :
    Wrapper.delivered env .wifiGetConfig [v] = some (Wrapper.direct .wifiGetConfig [v]) ↔
      PlainSound env .wifiGetConfig [v] := by
  cases v with
  | int n =>
    have hSelf : enum.convert n = n := h
    have hNonneg : 0 ≤ n := (holds_uint_iff.mp h).1
    rw [delivered_eq_some_iff]
    show _ ∧ [Val.int (arrives enum [u8, i32] n)] = [Val.int (enum.convert n)] ∧
      decide (arrives enum [u8, i32] n ≤ 1) = true ↔ _
    constructor
    · rintro ⟨hFunction, hEq, hReached⟩
      have hArrived : arrives enum [u8, i32] n = enum.convert n := by
        injection hEq with hHead
        exact Val.int.inj hHead
      rw [hArrived, hSelf] at hReached
      exact ⟨hFunction, hReached, trivial⟩
    · rintro ⟨hFunction, hReached, -⟩
      have hLe : n ≤ 1 := of_decide_eq_true hReached
      have hByte : u8.Holds n := holds_uint_iff.mpr ⟨hNonneg, Int.lt_of_le_of_lt hLe (by decide)⟩
      have hArrived : arrives enum [u8, i32] n = n := arrives_self hByte (by decide)
      rw [hArrived, hSelf]
      exact ⟨hFunction, rfl, hReached⟩
  | _ => exact absurd h id

theorem countryCode_iff {w : Val} (h : Field.countryCode.Accepts v)
    (hFlag : (Field.int .bool [.bool, .bool] .bool).Accepts w) :
    Wrapper.delivered env .wifiSetCountryCode [v, w] =
        some (Wrapper.direct .wifiSetCountryCode [v, w]) ↔
      PlainSound env .wifiSetCountryCode [v, w] := by
  obtain _ | _ | _ | (_ | s) := v <;> try exact absurd h id
  have hText : Field.countryCode.delivered env (.text (some s)) = .text (some (s.take 2)) :=
    congrArg Val.text (cString_two h)
  have hFlagSame : (Field.int .bool [.bool, .bool] .bool).delivered env w = _ :=
    delivered_eq_direct hFlag rfl
  rw [delivered_eq_some_iff]
  show _ ∧ [_, _] = [Val.text (some s), _] ∧ true = true ↔ _
  rw [hText, hFlagSame]
  constructor
  · rintro ⟨hFunction, hEq, hReached⟩
    injection hEq with hHead
    exact ⟨hFunction, hReached, (List.take_eq_self_iff s).mp (Option.some.inj (Val.text.inj hHead))⟩
  · rintro ⟨hFunction, hReached, hLe⟩
    exact ⟨hFunction, by rw [List.take_of_length_le hLe], hReached⟩

theorem twtConfig_iff {w : Val} (hFlag : (Field.int .bool [.bool, .bool] .bool).Accepts w)
    (h : Field.keepAlive.Accepts v) :
    Wrapper.delivered env .wifiStaTwtConfig [w, v] =
        some (Wrapper.direct .wifiStaTwtConfig [w, v]) ↔
      PlainSound env .wifiStaTwtConfig [w, v] := by
  cases v with
  | int n =>
    have hFlagSame : (Field.int .bool [.bool, .bool] .bool).delivered env w = _ :=
      delivered_eq_direct hFlag rfl
    have hSelf : arrives .bool [.bool, .bool] n = n := @arrives_self .bool _ _ _ h (by decide)
    rw [delivered_eq_some_iff]
    show _ ∧ [_, Val.int (if env.twtKeepAlive then arrives .bool [.bool, .bool] n else 0)] =
      [_, Val.int n] ∧ true = true ↔ _
    rw [hFlagSame, hSelf]
    constructor
    · rintro ⟨hFunction, hEq, hReached⟩
      injection hEq with _ hTail
      injection hTail with hHead
      have hKept : (if env.twtKeepAlive then n else 0) = n := Val.int.inj hHead
      refine ⟨hFunction, hReached, ?_⟩
      cases hOn : env.twtKeepAlive with
      | true => exact .inl hOn
      | false =>
        rw [hOn] at hKept
        exact .inr hKept.symm
    · rintro ⟨hFunction, hReached, hOn | hZero⟩
      · exact ⟨hFunction, by rw [if_pos hOn], hReached⟩
      · exact ⟨hFunction, by rw [show n = 0 from hZero, ite_self], hReached⟩
  | _ => exact absurd h id

theorem memMonitor_iff {args : List Val} (h : (Field.mapped 2).Accepts v)
    (hArgs : (Wrapper.fields .ifaceSetMemMonitor).tail.Forall₂ Field.Accepts args) :
    Wrapper.delivered env .ifaceSetMemMonitor (v :: args) =
        some (Wrapper.direct .ifaceSetMemMonitor (v :: args)) ↔
      PlainSound env .ifaceSetMemMonitor (v :: args) := by
  cases v with
  | int n =>
    have hNonneg : 0 ≤ n := (holds_uint_iff.mp h).1
    have hSame : (Wrapper.fields .ifaceSetMemMonitor).tail.zipWith (Field.delivered env) args = _ :=
      delivered_args hArgs (by decide)
    rw [delivered_eq_some_iff]
    show _ ∧ Val.int (if 0 ≤ n ∧ n ≤ 2 then n else 0) :: _ = Val.int n :: _ ∧ true = true ↔ _
    constructor
    · rintro ⟨hFunction, hEq, hReached⟩
      injection hEq with hHead
      have hKept : (if 0 ≤ n ∧ n ≤ 2 then n else 0) = n := Val.int.inj hHead
      refine ⟨hFunction, hReached, ?_⟩
      show n ≤ 2
      split at hKept <;> omega
    · rintro ⟨hFunction, hReached, hLe⟩
      refine ⟨hFunction, ?_, hReached⟩
      rw [if_pos ⟨hNonneg, hLe⟩]
      exact congrArg (Val.int n :: ·) hSame
  | _ => exact absurd h id

end

theorem plain_iff {w : Wrapper} {args : List Val} (hAcc : w.Accepts args) :
    w.delivered env args = some (w.direct args) ↔ PlainSound env w args := by
  by_cases hLossy : w ∈ lossy
  · have hFields := hAcc.1
    simp only [lossy, List.mem_cons, List.not_mem_nil, or_false] at hLossy
    rcases hLossy with rfl | rfl | rfl | rfl | rfl
    · obtain _ | ⟨hIface, _ | _⟩ := hFields
      exact getConfig_iff hIface
    · obtain _ | ⟨hIfx, _ | _⟩ := hFields
      exact getProtocol_iff hIfx
    · obtain _ | ⟨hCountry, _ | ⟨hFlag, _ | _⟩⟩ := hFields
      exact countryCode_iff hCountry hFlag
    · obtain _ | ⟨hFlag, _ | ⟨hKeepAlive, _ | _⟩⟩ := hFields
      exact twtConfig_iff hFlag hKeepAlive
    · obtain _ | ⟨hConfig, hArgs⟩ := hFields
      exact memMonitor_iff hConfig hArgs
  · have hKeep : ∀ f ∈ w.fields, keepsAll f = true :=
      List.all_eq_true.mp ((keepsAll_or_lossy w).resolve_left hLossy)
    rw [delivered_eq_some_iff, delivered_args hAcc.1 hKeep, reached_direct hAcc]
    constructor
    · rintro ⟨hFunction, -, hReached⟩
      exact ⟨hFunction, hReached, kept_of_not_lossy hLossy⟩
    · rintro ⟨hFunction, hReached, -⟩
      exact ⟨hFunction, rfl, hReached⟩

/-! ## Requests of their own -/

theorem initFields_keepAll : ∀ f ∈ initFields, keepsAll f = true := by decide

theorem mergedConfig_iff {n caps : Int} : getMergedInitConfig env n caps = (n, caps) ↔
    env.cacheTxBuffer = true ∨ caps = env.featureCaps := by
  unfold getMergedInitConfig
  split
  · next hCache => exact iff_of_true rfl (.inl hCache)
  · next hCache =>
    rw [or_iff_right hCache]
    split
    · next hCaps =>
      rw [Prod.mk.injEq]
      exact ⟨fun h => h.2.symm, fun h => absurd h.symm hCaps⟩
    · next hCaps => exact iff_of_true rfl (not_not.mp hCaps).symm

theorem wifiInit_iff {c : InitConfig} (hAcc : c.Accepts) :
    c.delivered env = some c.direct ↔ env.initialized = false ∧
      (env.nvsEnabled = true → c.nvsEnable = 1) ∧
      (env.cacheTxBuffer = true ∨ c.featureCaps = env.featureCaps) := by
  have hCopied : initFields.zipWith (Field.delivered env) c.copied = _ :=
    delivered_args hAcc.copied initFields_keepAll
  have hCache : arrives i32 [u8, i32] c.cacheTxBufNum = c.cacheTxBufNum :=
    arrives_self hAcc.cacheTxBufNum (by decide)
  have hCaps : arrives u64 [u32, u64] c.featureCaps = c.featureCaps :=
    arrives_self hAcc.featureCaps (by decide)
  have hNvs : u8.Holds (if env.nvsEnabled then 1 else c.nvsEnable) := by
    split
    · decide
    · exact hAcc.nvsEnable
  have hNvsIff : (if env.nvsEnabled then 1 else c.nvsEnable) = c.nvsEnable ↔
      (env.nvsEnabled = true → c.nvsEnable = 1) := by
    split
    · next hOn => exact ⟨fun h _ => h.symm, fun h => (h hOn).symm⟩
    · next hOff => exact ⟨fun _ h => absurd h hOff, fun _ => rfl⟩
  unfold InitConfig.delivered InitConfig.direct
  dsimp only
  rw [hCopied, hCache, hCaps, arrives_self hNvs (by decide), ← hNvsIff, ← mergedConfig_iff]
  cases hInit : env.initialized with
  | true => exact ⟨fun h => (by cases h), fun h => (by cases h.1)⟩
  | false =>
    rw [if_neg Bool.false_ne_true, Option.some_inj, InitConfig.mk.injEq, Prod.mk.injEq]
    exact ⟨fun ⟨_, hNvs, hMerged⟩ => ⟨rfl, hNvs, hMerged⟩,
      fun ⟨_, hNvs, hMerged⟩ => ⟨rfl, hNvs, hMerged⟩⟩

/-! ### The configuration of an interface -/

theorem sta_iff (b : ConfigCodec.Build) (c : HostSta) :
    AdaptsTo (.sta c) (reqWifiSetConfig b (composeRpcReq (.sta c))) ↔
      Terminated c.ssid ∧ Terminated c.password := by
  have hBssid : (if hRpcMacIsSet c.bssid then takeBytes bssidBytesSize bssidBytesSize
      (if hRpcMacIsSet c.bssid then copyBytes c.bssid else []) else
      Vector.replicate bssidBytesSize 0) = c.bssid := by
    cases hSet : hRpcMacIsSet c.bssid with
    | true => exact takeBytes_copyBytes c.bssid
    | false => exact eq_zero_of_not_set hSet
  have hListen : c.listenInterval.toUInt32.toUInt16 = c.listenInterval.toUInt16 := by simp
  rw [← takeBytes_copyStr_iff, ← takeBytes_copyStr_iff]
  constructor
  · rintro ⟨hSsid, hPassword, -⟩
    exact ⟨hSsid, hPassword⟩
  · rintro ⟨hSsid, hPassword⟩
    exact ⟨hSsid, hPassword, hBssid, UInt8.toUInt8_toUInt32 _, hListen, rfl⟩

theorem ap_iff (b : ConfigCodec.Build) (c : HostAp) :
    AdaptsTo (.ap c) (reqWifiSetConfig b (composeRpcReq (.ap c))) ↔
      Terminated c.ssid ∧ Terminated c.password := by
  rw [← takeBytes_copyStr_iff, ← takeBytes_copyStr_iff]
  constructor
  · rintro ⟨hSsid, hPassword, -⟩
    exact ⟨hSsid, hPassword⟩
  · rintro ⟨hSsid, hPassword⟩
    exact ⟨hSsid, hPassword, UInt8.toUInt8_toUInt32 _, UInt8.toUInt8_toUInt32 _,
      UInt8.toUInt8_toUInt32 _, UInt8.toUInt8_toUInt32 _, UInt16.toUInt16_toUInt32 _⟩

/-- A call for an interface is one for the station or the access point. -/
theorem setConfigDelivered_cases {b : ConfigCodec.Build} {iface x : Int} {sta : HostSta}
    {ap : HostAp} {d : ConfigCodec.Config b}
    (h : setConfigDelivered env b iface sta ap = some (x, d)) : x = 0 ∨ x = 1 := by
  unfold setConfigDelivered at h
  dsimp only at h
  split at h
  · next hSta =>
    split at h
    · cases h
    · injection h with h
      injection h with hIface
      exact .inl (hIface.symm.trans hSta)
  · split at h
    · next hAp =>
      injection h with h
      injection h with hIface
      exact .inr (hIface.symm.trans hAp)
    · cases h

theorem setConfig_iff (b : ConfigCodec.Build) (iface : Int) (sta : HostSta) (ap : HostAp) :
    (∃ d, setConfigDelivered env b iface sta ap = some (iface, d) ∧
      AdaptsTo (if iface = 0 then .sta sta else .ap ap) d) ↔
    if iface = 0 then env.stationConnecting = false ∧ Terminated sta.ssid ∧ Terminated sta.password
    else iface = 1 ∧ Terminated ap.ssid ∧ Terminated ap.password := by
  by_cases hSta : iface = 0
  · subst hSta
    have hZero : arrives i32 [u8, i32] 0 = 0 := by decide
    rw [if_pos rfl, if_pos rfl, ← sta_iff b]
    unfold setConfigDelivered
    dsimp only
    rw [hZero, if_pos rfl]
    cases env.stationConnecting with
    | true => exact ⟨fun ⟨_, h, _⟩ => (by cases h), fun h => (by cases h.1)⟩
    | false =>
      constructor
      · rintro ⟨_, ⟨⟩, hAdapts⟩
        exact ⟨rfl, hAdapts⟩
      · exact fun h => ⟨_, rfl, h.2⟩
  · rw [if_neg hSta, if_neg hSta]
    constructor
    · rintro ⟨d, hDelivered, hAdapts⟩
      have hAp : iface = 1 := (setConfigDelivered_cases hDelivered).resolve_left hSta
      subst hAp
      cases hDelivered
      exact ⟨rfl, (ap_iff b ap).mp hAdapts⟩
    · rintro ⟨rfl, hTerminated⟩
      exact ⟨_, rfl, (ap_iff b ap).mpr hTerminated⟩

/-! ### The filter of a scan -/

theorem cString_none {mem : List UInt8} (h : 0 ∉ mem) : cString mem = none := if_neg h

/-- A text that ends within the bytes that are sent is read from them, and no other. -/
theorem cString_ssidBytes_iff {len : Nat} {mem : List UInt8}
    (h : if len = 0 then 0 ∈ mem else len ≤ mem.length) :
    cString (ssidBytes len mem) =
        cString (if len = 0 then mem else terminated (mem.take len)) ↔
      if len = 0 then (mem.takeWhile (· ≠ 0)).length < 32 else 0 ∈ mem.take (min len 32) := by
  by_cases hLen : len = 0
  · rw [if_pos hLen] at h
    obtain ⟨s, rest, rfl, hs⟩ := List.eq_append_cons_of_mem h
    have hBytes : ssidBytes len (s ++ 0 :: rest) =
        (s ++ 0 :: rest).take (min (s.length + 1) 32) := by
      unfold ssidBytes
      dsimp only
      rw [if_neg (not_not.mpr hLen), takeWhile_append_zero rest hs, Nat.min_assoc, Nat.min_self]
    rw [if_pos hLen, if_pos hLen, takeWhile_append_zero rest hs, cString_append rest hs, hBytes]
    rcases Nat.lt_or_ge s.length 32 with hLt | hGe
    · have hTake : (s ++ 0 :: rest).take (min (s.length + 1) 32) = terminated s := by
        rw [Nat.min_eq_left (show s.length + 1 ≤ 32 from hLt), List.take_length_add_append]
        rfl
      rw [hTake]
      exact iff_of_true (cString_terminated hs) hLt
    · have hTake : (s ++ 0 :: rest).take (min (s.length + 1) 32) = s.take 32 := by
        rw [Nat.min_eq_right (Nat.le_succ_of_le hGe), List.take_append_of_le_length hGe]
      rw [hTake, cString_none fun hMem => hs (List.mem_of_mem_take hMem)]
      exact iff_of_false (fun hEq => (by cases hEq)) (Nat.not_lt.mpr hGe)
  · have hBytes : ssidBytes len mem = mem.take (min len 32) := by
      unfold ssidBytes
      dsimp only
      rw [if_pos hLen]
    rw [if_neg hLen, if_neg hLen, hBytes]
    by_cases hEnds : 0 ∈ mem.take (min len 32)
    · have hSplit : mem.take len = mem.take (min len 32) ++ (mem.take len).drop (min len 32) := by
        conv_lhs => rw [← List.take_append_drop (min len 32) (mem.take len), List.take_take,
          Nat.min_eq_left (Nat.min_le_left len 32)]
      obtain ⟨s, rest, hEq, hs⟩ := List.eq_append_cons_of_mem hEnds
      rw [terminated, hSplit, hEq, List.append_assoc, List.append_assoc, List.cons_append,
        cString_append _ hs, cString_append _ hs]
      exact iff_of_true rfl (List.mem_append_right s List.mem_cons_self)
    · rw [cString_none hEnds]
      refine iff_of_false (fun hEq => ?_) hEnds
      have hLast : 0 ∈ terminated (mem.take len) :=
        List.mem_append_right _ (List.mem_singleton_self 0)
      rw [cString, if_pos hLast] at hEq
      cases hEq

theorem scanFields_keepAll : ∀ f ∈ scanFields, keepsAll f = true := by decide

theorem scanConfig_iff {c : ScanConfig} (hAcc : c.Accepts) :
    c.delivered env = c.direct ↔ SsidEnds c := by
  have hTimes : scanFields.zipWith (Field.delivered env) c.times = _ :=
    delivered_args hAcc.times scanFields_keepAll
  have hBssid : reqCopyBytes c.bssid 6 = c.bssid := by
    cases hMac : c.bssid with
    | none => exact reqCopyBytes_none 6
    | some mac =>
      rw [← hAcc.bssid mac hMac]
      exact reqCopyBytes_length (by rw [hAcc.bssid mac hMac]; decide)
  have hSsid : (c.ssid.map fun mem => cString (ssidBytes c.ssidLen mem)) = (c.ssid.map fun mem =>
      cString (if c.ssidLen = 0 then mem else terminated (mem.take c.ssidLen))) ↔ SsidEnds c := by
    unfold SsidEnds
    cases hMem : c.ssid with
    | none => exact iff_of_true rfl fun _ h => (by cases h)
    | some mem =>
      rw [Option.map_some, Option.map_some, Option.some_inj,
        cString_ssidBytes_iff (hAcc.ssid mem hMem)]
      constructor
      · rintro hEnds _ ⟨⟩
        exact hEnds
      · exact fun h => h mem rfl
  unfold ScanConfig.delivered ScanConfig.direct
  rw [DriverScan.mk.injEq, hBssid, hTimes, hSsid]
  exact and_iff_left ⟨rfl, rfl⟩

/-! ### Addresses -/

theorem iface_iff {n : Int} (h : enum.Holds n) :
    arrives enum [i32, i32, u8] n = n ↔ n < 256 := by
  have hByte : arrives u8 [i32, i32] n = u8.convert n := arrives_of_covers (by decide)
  have hWide : enum.Holds (u8.convert n) := (convert_holds u8 n (by decide)).mono rfl
  have hNonneg : 0 ≤ n := (holds_uint_iff.mp h).1
  have hArrived : arrives enum [i32, i32, u8] n = u8.convert n :=
    calc arrives enum [i32, i32, u8] n = enum.convert (arrives u8 [i32, i32] n) := rfl
      _ = u8.convert n := by rw [hByte]; exact hWide
  rw [hArrived]
  exact holds_uint_iff.trans (and_iff_right hNonneg)

theorem calls_iff {d : DhcpDns} (hAcc : d.Accepts) :
    (if env.networkSplit then d.delivered.calls else []) = d.calls ↔
      (d.dhcpUp ≠ 0 → env.networkSplit = true ∧ d.iface < 256 ∧ Fits d.dhcpIp ∧ Fits d.dhcpNm ∧
        Fits d.dhcpGw) ∧
      (d.dnsUp ≠ 0 → env.networkSplit = true ∧ d.iface < 256 ∧ Fits d.dnsIp) := by
  have hFits : ∀ s ∈ [d.dhcpIp, d.dhcpNm, d.dhcpGw, d.dnsIp], dhcpText s = s ↔ Fits s :=
    fun s hs => dhcpText_eq_iff (hAcc.texts s hs)
  simp only [List.forall_mem_cons] at hFits
  obtain ⟨hIp, hNm, hGw, hDns, -⟩ := hFits
  have hIface := iface_iff hAcc.iface
  have hDhcpUp : arrives u8 [i32, i32] d.dhcpUp = d.dhcpUp := arrives_self hAcc.dhcpUp (by decide)
  have hDnsUp : arrives u8 [i32, i32] d.dnsUp = d.dnsUp := arrives_self hAcc.dnsUp (by decide)
  have hType : arrives u8 [i32, i32] d.dnsType = d.dnsType :=
    arrives_self hAcc.dnsType (by decide)
  rw [← hIp, ← hNm, ← hGw, ← hDns, ← hIface]
  unfold DhcpDns.delivered DhcpDns.calls
  dsimp only
  rw [hDhcpUp, hDnsUp, hType]
  cases env.networkSplit <;> by_cases hDhcp : d.dhcpUp = 0 <;> by_cases hDns : d.dnsUp = 0 <;>
    simp [hDhcp, hDns]

theorem mac_iff {type : Int} (hType : u32.Holds type) (set : Bool) (mac : List UInt8) :
    macDelivered env set mac type = some (if set then .set mac type else .read type) ↔
      (set = true → mac ≠ [] ∧ mac.length = env.macAddrLen type) := by
  have hSelf : arrives enum [u32, u32] type = type := arrives_self hType (by decide)
  unfold macDelivered
  dsimp only
  rw [hSelf]
  cases set with
  | false => exact ⟨fun _ h => (by cases h), fun _ => rfl⟩
  | true =>
    have hNonempty : mac.length ≠ 0 ↔ mac ≠ [] := not_congr List.length_eq_zero_iff
    rw [if_pos rfl, if_pos rfl, ← hNonempty]
    split
    · next h => exact ⟨fun _ _ => h, fun _ => rfl⟩
    · next h => exact ⟨fun hEq => (by cases hEq), fun hBoth => absurd (hBoth rfl) h⟩

/-! ## All calls -/

theorem arrives_iff_sound (env : Env) (b : ConfigCodec.Build) (ib : ItwtCodec.Build) (c : Call)
    (hAcc : c.Accepts) : c.Arrives env b ib ↔ Call.Sound env ib c := by
  cases c with
  | plain w args => exact plain_iff hAcc
  | wifiInit c => exact wifiInit_iff hAcc
  | wifiSetConfig iface sta ap => exact setConfig_iff b iface sta ap
  | wifiSetScanParameters config =>
    cases config with
    | none => exact iff_of_true rfl trivial
    | some times =>
      exact iff_of_true (congrArg some (delivered_args (hAcc times rfl) (by decide))) trivial
  | wifiScanStart config block =>
    cases config with
    | none => exact iff_of_true rfl fun _ h => (by cases h)
    | some c =>
      show some (c.delivered env) = some c.direct ↔ _
      rw [Option.some_inj, scanConfig_iff (hAcc c rfl)]
      constructor
      · rintro hEnds _ ⟨⟩
        exact hEnds
      · exact fun h => h c rfl
  | wifiStaItwtSetup c => exact ItwtCodec.request_iff ib c
  | setDhcpDnsStatus d => exact calls_iff hAcc
  | ifaceMacAddrSetGet set mac type => exact mac_iff hAcc set mac

/-- Everything is turned on, and nothing has been called. -/
def fresh : Env where
  restarting := false
  twtKeepAlive := true
  nvsEnabled := false
  canConnect := true
  stationConnecting := false
  initialized := false
  imageValid := true
  apFound := true
  networkSplit := true
  macAddrLen := fun _ => 6
  cacheTxBuffer := true
  cacheTxBufferNum := 32
  featureCaps := 0

/-- A scan for one access point, with its name and address. -/
def scanForOne : ScanConfig where
  ssid := some [110, 101, 116, 0]
  ssidLen := 0
  bssid := some [2, 0, 0, 0, 0, 1]
  times := [.int 6, .int 1, .int 100, .int 120, .int 300, .int 30]

theorem scanStart_arrives :
    Call.Accepts (.wifiScanStart (some scanForOne) true) ∧
      Call.Arrives fresh ⟨true, true, true⟩ ⟨true⟩ (.wifiScanStart (some scanForOne) true) := by
  have hAcc : Call.Accepts (.wifiScanStart (some scanForOne) true) := by
    rintro c ⟨⟩
    have hTimes : scanFields.Forall₂ Field.Accepts scanForOne.times := by
      simp only [scanFields, scanTimes, scanForOne, List.forall₂_cons, List.forall₂_nil_left_iff,
        Field.Accepts]
      decide
    refine ⟨?_, ?_, hTimes⟩
    · rintro mem ⟨⟩
      decide
    · rintro mac ⟨⟩
      rfl
  have hSound : Call.Sound fresh ⟨true⟩ (.wifiScanStart (some scanForOne) true) := by
    rintro c ⟨⟩ mem ⟨⟩
    decide
  exact ⟨hAcc, (arrives_iff_sound _ _ _ _ hAcc).mpr hSound⟩

/-- The co-processor is asked for the protocols of the station. -/
theorem interface_forgotten :
    ¬ ∀ (env : Env) (b : ConfigCodec.Build) (ib : ItwtCodec.Build) (c : Call), c.Accepts →
      c.Arrives env b ib := by
  intro h
  have hAcc : Call.Accepts (.plain .wifiGetProtocol [.int 1]) :=
    ⟨.cons (show enum.Holds 1 by decide) .nil, rfl⟩
  have hSame := h fresh ⟨true, true, true⟩ ⟨true⟩ _ hAcc
  have hDelivered : Wrapper.delivered fresh .wifiGetProtocol [.int 1] =
      some (.wifiGetProtocol, [.int 0]) := rfl
  rw [Call.Arrives, hDelivered] at hSame
  revert hSame
  decide

end EspHosted.Rpc.Arguments
