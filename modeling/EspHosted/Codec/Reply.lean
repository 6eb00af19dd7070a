import EspHosted.Codec.ReqAccess

/-!
# What is in a response

A response of the co-processor that says success holds what the branch of the host for its call
reads, and no field of it is longer than its place on the host. Every step of a handler either
leaves with an error in the response or changes its payload, so a handler is followed step by step
with the payload that it has filled in so far.

* `leaves_commandHandler`: what every handler leaves behind is `Genuine`;
* `replies_dataTransferHandler`: the response to a request.
-/

namespace EspHosted.Codec

open Checked Checked.Prog
open Coprocessor

/-! ## Fields of a response -/

section Fields

variable (p : Msg) (f g : Field)

@[simp] theorem withNum_bytes (x : Int) : (p.withNum f x).bytes = p.bytes := rfl
@[simp] theorem withNum_sub (x : Int) : (p.withNum f x).sub = p.sub := rfl
@[simp] theorem withNum_list (x : Int) : (p.withNum f x).list = p.list := rfl

@[simp] theorem withNum_num (x : Int) :
    (p.withNum f x).num g = if g = f then x else p.num g := by
  simp [Msg.withNum, Function.update_apply]

@[simp] theorem withBytes_bytes (b : List UInt8) :
    (p.withBytes f b).bytes g = if g = f then b else p.bytes g := by
  simp [Msg.withBytes, Function.update_apply]

@[simp] theorem withSub_num (q : Msg) : (p.withSub f q).num = p.num := rfl
@[simp] theorem withSub_bytes (q : Msg) : (p.withSub f q).bytes = p.bytes := rfl

@[simp] theorem withSub_sub (q : Msg) :
    (p.withSub f q).sub g = if g = f then some q else p.sub g := by
  simp [Msg.withSub, Function.update_apply]

@[simp] theorem withList_num (qs : List Msg) : (p.withList f qs).num = p.num := rfl

@[simp] theorem withList_list (qs : List Msg) :
    (p.withList f qs).list g = if g = f then qs else p.list g := by
  simp [Msg.withList, Function.update_apply]

@[simp] theorem inside_num (h : Msg → Msg) : (p.inside f h).num = p.num := rfl
@[simp] theorem inside_bytes (h : Msg → Msg) : (p.inside f h).bytes = p.bytes := rfl

@[simp] theorem inside_sub (h : Msg → Msg) :
    (p.inside f h).sub g = if g = f then (p.sub f).map h else p.sub g := by
  simp [Msg.inside, Function.update_apply]

@[simp] theorem withNums_bytes (r : Rec) (fs : List Field) : (p.withNums r fs).bytes = p.bytes := by
  unfold Msg.withNums
  induction fs generalizing p with
  | nil => rfl
  | cons g fs ih => exact ih (p.withNum g (r.num g))

@[simp] theorem withNums_sub (r : Rec) (fs : List Field) : (p.withNums r fs).sub = p.sub := by
  unfold Msg.withNums
  induction fs generalizing p with
  | nil => rfl
  | cons g fs ih => exact ih (p.withNum g (r.num g))

end Fields

/-! ## What is in a response -/

/-- What the host needs to find in a response that says success. -/
def Genuine (c : Call) (p : Msg) : Prop :=
  p.num .resp = 0 → (∀ env, RespBodyReads env c p ∧ RespBodyFits env c p) ∧
    (c = .wifiScanParams → ScanParamsRead p)

/-- The payload of the response, if there is one, satisfies `P`. -/
def Sound (P : Msg → Prop) (m : Mem (Option Msg)) : Prop := ∀ p, m.store = some p → P p

@[simp] theorem sound_put {P : Msg → Prop} {m : Mem (Option Msg)} {p : Msg} :
    Sound P (m.put (some p)) ↔ P p := by
  simp [Sound]

theorem genuine_of_error {c : Call} {p : Msg} {x : Int} (hx : x ≠ 0) :
    Genuine c (p.withNum .resp x) := by
  intro hResp
  simp [Msg.withNum, hx] at hResp

section Answers

variable {env : CpEnv} {rpc : ReqRpc} {c : Call} {m : Mem (Option Msg)} {P : Msg → Prop}

/-- Whether the handler comes to its end or not, the payload that it leaves behind satisfies
`P`. -/
def Leaves (P : Msg → Prop) (p : Handler Unit) (m : Mem (Option Msg)) : Prop :=
  wp p (fun _ _ => True) (Sound P) (fun _ => Sound P) m

/-- Most branches of the host need nothing. -/
theorem leaves_of_plain (h : ∀ p, P p) (p : Handler Unit) : Leaves P p m := by
  unfold Leaves wp
  split
  · trivial
  · exact fun p _ => h p
  · exact fun p _ => h p

theorem leaves_simple {body : Handler Unit} (hOld : m.store = none)
    (hBody : Leaves P body (m.put (some {}))) : Leaves P (rpcTemplateSimple env body) m := by
  unfold Leaves rpcTemplateSimple newResp
  simp only [wp_bind, wp_need, wp_modify]
  split
  · exact hBody
  · intro p hp
    simp [hOld] at hp

theorem leaves_template {body : ReqMsg → Handler Unit} (hOld : m.store = none)
    (hBody : ∀ p, Leaves P (body p) (m.put (some {}))) :
    Leaves P (rpcTemplate env rpc c body) m := by
  have hSilent : Sound P m := by
    intro p hp
    simp [hOld] at hp
  unfold Leaves rpcTemplate newResp
  simp only [wp_bind, wp_need, wp_modify]
  split
  · split
    · cases rpc.member (.req c) with
      | null => trivial
      | other => trivial
      | obj p => exact hBody p
    · exact hSilent
  · exact hSilent

/-! Every step either leaves with an error in the response or changes its payload. -/

section Steps

variable {p : Msg} {k : Handler Unit}

theorem leaves_end (h : P p) : Leaves P (pure ()) (m.put (some p)) := sound_put.mpr h

theorem leaves_edit {f : Msg → Msg} (h : Leaves P k (m.put (some (f p)))) :
    Leaves P (do edit f; k) (m.put (some p)) := h

/-- A step at the end is a step with nothing after it. -/
theorem leaves_last (h : Leaves P (do k; pure ()) m) : Leaves P k m := by
  unfold Leaves at h ⊢
  rw [wp_bind] at h
  exact h

theorem leaves_error {x : Int} (hx : x ≠ 0) : Leaves (Genuine c) (setResp x) (m.put (some p)) :=
  sound_put.mpr (genuine_of_error hx)

theorem leaves_failure {x : Int} (hx : x ≠ 0) :
    Leaves (Genuine c) (do setResp x; fail) (m.put (some p)) :=
  sound_put.mpr (genuine_of_error hx)

theorem leaves_guard {x : Int} (h : x = 0 → Leaves (Genuine c) k (m.put (some p))) :
    Leaves (Genuine c) (do retFailIf x; k) (m.put (some p)) := by
  unfold Leaves
  rw [wp_bind, wp_retFailIf]
  split
  · rename_i hx
    exact h hx
  · rename_i hx
    exact sound_put.mpr (genuine_of_error hx)

theorem leaves_alloc {err : Int} {place : Place} (hErr : err ≠ 0)
    (h : Leaves (Genuine c) k (m.put (some p))) :
    Leaves (Genuine c) (do allocOr env err place; k) (m.put (some p)) := by
  unfold Leaves
  rw [wp_bind, wp_allocOr]
  split
  · exact h
  · exact sound_put.mpr (genuine_of_error hErr)

/-- A test that leaves the response as it is. -/
theorem leaves_need {d : Bool} (h : d = true → Leaves (Genuine c) k (m.put (some p)))
    (hNot : d = false → Genuine c p) : Leaves (Genuine c) (do need d; k) (m.put (some p)) := by
  unfold Leaves
  rw [wp_bind, wp_need]
  split
  · rename_i hd
    exact h hd
  · rename_i hd
    exact sound_put.mpr (hNot (by simpa using hd))

/-- Without memory the payload stays as it is but for its error. -/
theorem leaves_elementOr {f : Field} {i : Nat} {attach : Msg → Msg}
    (hErr : env.calloc (.elem f i) = false → P (p.withNum .resp rpcErrMemoryFailure))
    (h : env.calloc (.elem f i) = true → Leaves P k (m.put (some (attach p)))) :
    Leaves P (do rpcAllocElement env f i attach; k) (m.put (some p)) := by
  unfold Leaves
  rw [wp_bind, wp_rpcAllocElement]
  split
  · rename_i hAlloc
    exact h hAlloc
  · rename_i hAlloc
    exact sound_put.mpr (hErr (by simpa using hAlloc))

theorem leaves_element {f : Field} {i : Nat} {attach : Msg → Msg}
    (h : Leaves (Genuine c) k (m.put (some (attach p)))) :
    Leaves (Genuine c) (do rpcAllocElement env f i attach; k) (m.put (some p)) :=
  leaves_elementOr (fun _ => genuine_of_error (by decide)) fun _ => h

theorem leaves_copyStr {f : Field} {i : Nat} {src : List UInt8} {maxLen : Nat}
    {attach : List UInt8 → Msg → Msg}
    (h : Leaves (Genuine c) k (m.put (some (attach (cStr src maxLen) p)))) :
    Leaves (Genuine c) (do rpcRespCopyStr env f i src maxLen attach; k) (m.put (some p)) := by
  unfold Leaves
  rw [wp_bind, wp_rpcRespCopyStr]
  split
  · exact h
  · exact sound_put.mpr (genuine_of_error (by decide))

theorem leaves_copyBytesOr {f : Field} {i : Nat} {src : List UInt8} {num : Nat}
    {attach : List UInt8 → Msg → Msg} (hErr : P (p.withNum .resp failure))
    (hZero : num = 0 → Leaves P k (m.put (some p)))
    (h : Leaves P k (m.put (some (attach (src.take num) p)))) :
    Leaves P (do rpcRespCopyBytes env f i src num attach; k) (m.put (some p)) := by
  unfold Leaves
  rw [wp_bind, wp_rpcRespCopyBytes]
  split
  · rename_i hNum
    exact hZero hNum
  · split
    · exact h
    · exact sound_put.mpr hErr

theorem leaves_copyBytes {f : Field} {i : Nat} {src : List UInt8} {num : Nat}
    {attach : List UInt8 → Msg → Msg} (hZero : num = 0 → Leaves (Genuine c) k (m.put (some p)))
    (h : Leaves (Genuine c) k (m.put (some (attach (src.take num) p)))) :
    Leaves (Genuine c) (do rpcRespCopyBytes env f i src num attach; k) (m.put (some p)) :=
  leaves_copyBytesOr (genuine_of_error (by decide)) hZero h

theorem leaves_deref {α : Type} {x : Ptr α} {k : α → Handler Unit} (h : ∀ a, Leaves P (k a) m) :
    Leaves P (do let a ← deref x; k a) m := by
  cases x with
  | null => trivial
  | other => trivial
  | obj a => exact h a

theorem leaves_load {α : Type} {x : Option α} {k : α → Handler Unit}
    (h : ∀ a, Leaves P (k a) m) : Leaves P (do let a ← load x; k a) m := by
  cases x with
  | none => trivial
  | some a => exact h a

theorem leaves_readScanTime {config : ReqMsg} (h : Leaves P k m) :
    Leaves P (do readScanTime config; k) m := by
  unfold Leaves readScanTime
  cases config.sub .scanTime with
  | none => trivial
  | some t =>
    simp only [wp_bind, wp_load_some]
    cases t.sub .active with
    | none => trivial
    | some active => exact h

theorem leaves_ite {d : Prop} [Decidable d] {q : Handler Unit}
    (hThen : d → Leaves P k m) (hElse : ¬d → Leaves P q m) :
    Leaves P (if d then k else q) m := by
  split
  · rename_i hd
    exact hThen hd
  · rename_i hd
    exact hElse hd

end Steps

end Answers

/-! ## The calls whose branch needs something -/

section Calls

variable {env : CpEnv} {rpc : ReqRpc} {m : Mem (Option Msg)}

theorem cStr_length (src : List UInt8) (maxLen : Nat) : (cStr src maxLen).length ≤ maxLen := by
  unfold cStr
  exact List.length_take_le _ _

theorem leaves_getMACAddress (hOld : m.store = none) :
    Leaves (Genuine .getMACAddress) (reqWifiGetMac env rpc) m := by
  have hSix : ¬6 = 0 := by decide
  refine leaves_simple hOld ?_
  refine leaves_deref fun p => ?_
  refine leaves_guard fun _ => ?_
  refine leaves_last ?_
  refine leaves_copyBytes (fun h => absurd h hSix) ?_
  refine leaves_end ?_
  intro _
  simp [RespBodyReads, RespBodyFits, Nat.min_le_left]

theorem leaves_wifiGetCountryCode (hOld : m.store = none) :
    Leaves (Genuine .wifiGetCountryCode) (reqWifiGetCountryCode env) m := by
  refine leaves_simple hOld ?_
  refine leaves_guard fun _ => ?_
  refine leaves_last ?_
  refine leaves_copyStr ?_
  refine leaves_end ?_
  intro _
  simp [RespBodyReads, RespBodyFits, cStr_length]

theorem leaves_wifiGetCountry (hOld : m.store = none) :
    Leaves (Genuine .wifiGetCountry) (reqWifiGetCountry env) m := by
  have hThree : ¬3 = 0 := by decide
  refine leaves_simple hOld ?_
  refine leaves_guard fun _ => ?_
  refine leaves_element ?_
  refine leaves_copyBytes (fun h => absurd h hThree) ?_
  refine leaves_last ?_
  refine leaves_edit ?_
  refine leaves_end ?_
  intro _
  simp [RespBodyReads, RespBodyFits, Nat.min_le_left]

theorem leaves_getBands {c : Call} {f : Field}
    (hBands : ∀ p : Msg, (p.sub f).isSome → Genuine c p) (hOld : m.store = none) :
    Leaves (Genuine c) (getBands env rpc c f) m := by
  refine leaves_template hOld fun p => ?_
  refine leaves_edit ?_
  refine leaves_guard fun _ => ?_
  refine leaves_element ?_
  refine leaves_last ?_
  refine leaves_edit ?_
  refine leaves_end (hBands _ ?_)
  simp

theorem leaves_ifaceMacAddrSetGet (hOld : m.store = none) :
    Leaves (Genuine .ifaceMacAddrSetGet) (reqIfaceMacAddrSetGet env rpc) m := by
  refine leaves_template hOld fun p => ?_
  refine leaves_edit ?_
  have hCopy (src : List UInt8) (q : Msg) (hq : q.bytes .mac = []) :
      Leaves (Genuine .ifaceMacAddrSetGet)
        (rpcRespCopyBytes env .mac 0 src (env.macLen (p.num .type)) fun b q => q.withBytes .mac b)
        (m.put (some q)) := by
    refine leaves_last ?_
    refine leaves_copyBytes (fun _ => ?_) ?_
    · refine leaves_end ?_
      intro _
      simp [RespBodyReads, RespBodyFits, hq]
    · refine leaves_end ?_
      intro _
      have hLen := env.macLen_le (p.num .type)
      simp [RespBodyReads, RespBodyFits]
      omega
  refine leaves_ite (fun hSet => ?_) fun hGet => ?_
  · refine leaves_ite (fun hLen => ?_) fun _ => leaves_error (by decide)
    refine leaves_ite (fun hSupported => ?_) fun _ => leaves_error (by decide)
    refine leaves_guard fun _ => ?_
    exact hCopy _ _ rfl
  · refine leaves_guard fun _ => ?_
    exact hCopy _ _ rfl

theorem leaves_wifiScanParams (hOld : m.store = none) :
    Leaves (Genuine .wifiScanParams) (reqWifiScanParams env rpc) m := by
  refine leaves_template hOld fun p => ?_
  refine leaves_ite (fun hSet => ?_) fun hOther => ?_
  · have hRet : Leaves (Genuine .wifiScanParams) (retFailIf env.ret) (m.put (some {})) := by
      refine leaves_last ?_
      refine leaves_guard fun _ => ?_
      refine leaves_end ?_
      intro _
      simp [RespBodyReads, RespBodyFits, ScanParamsRead]
    refine leaves_ite (fun hConfig => ?_) fun _ => hRet
    refine leaves_load fun config => ?_
    exact leaves_readScanTime hRet
  · refine leaves_ite (fun hGet => ?_) fun hNeither => ?_
    · refine leaves_guard fun _ => ?_
      refine leaves_element ?_
      refine leaves_element ?_
      refine leaves_element ?_
      refine leaves_edit ?_
      refine leaves_edit ?_
      refine leaves_last ?_
      refine leaves_edit ?_
      refine leaves_end ?_
      intro _
      simp [RespBodyReads, RespBodyFits, ScanParamsRead]
    · refine leaves_last ?_
      refine leaves_guard fun hZero => ?_
      exact absurd hZero (by decide)

theorem leaves_appGetDesc (hOld : m.store = none) :
    Leaves (Genuine .appGetDesc) (reqAppGetDesc env) m := by
  refine leaves_simple hOld ?_
  refine leaves_element ?_
  cases env.appDesc with
  | none => exact leaves_error (by decide)
  | some desc =>
    have hSha : ¬32 = 0 := by decide
    refine leaves_copyStr ?_
    refine leaves_copyStr ?_
    refine leaves_copyStr ?_
    refine leaves_edit ?_
    refine leaves_copyStr ?_
    refine leaves_copyStr ?_
    refine leaves_copyBytes (fun h => absurd h hSha) ?_
    refine leaves_last ?_
    refine leaves_edit ?_
    refine leaves_end ?_
    intro _
    simp [RespBodyReads, RespBodyFits, AppDescFits, cStr_length, Nat.min_le_left]

theorem leaves_copySta {p : Msg} (hIface : u8 (p.num .iface) = 0) :
    Leaves (Genuine .wifiGetConfig) (copyWifiStaCfgToRpcStruct env)
      (m.put (some (p.withSub .cfg {}))) := by
  have hBssid : ¬6 = 0 := by decide
  refine leaves_element ?_
  refine leaves_copyStr ?_
  refine leaves_copyStr ?_
  refine leaves_copyBytes (fun h => absurd h hBssid) ?_
  refine leaves_element ?_
  refine leaves_element ?_
  refine leaves_edit ?_
  refine leaves_edit ?_
  refine leaves_last ?_
  refine leaves_edit ?_
  refine leaves_end ?_
  intro _
  simp [RespBodyReads, RespBodyFits, GetConfigReads, GetConfigFits, Msg.insideOneof,
    Msg.unionMember, hIface]

theorem leaves_copyApConfig {p : Msg} (hIface : u8 (p.num .iface) = 1) :
    Leaves (Genuine .wifiGetConfig) (copyApConfig env) (m.put (some (p.withSub .cfg {}))) := by
  refine leaves_element ?_
  refine leaves_copyStr ?_
  refine leaves_edit ?_
  refine leaves_ite (fun hSome => leaves_copyStr ?_) fun hEmpty => ?_
  all_goals
    refine leaves_edit ?_
    refine leaves_element ?_
    refine leaves_edit ?_
    refine leaves_last ?_
    refine leaves_element ?_
    refine leaves_end ?_
    intro _
    simp [RespBodyReads, RespBodyFits, GetConfigReads, GetConfigFits, Msg.insideOneof,
      Msg.unionMember, hIface, cStr_length]

theorem leaves_wifiGetConfig (hOld : m.store = none) :
    Leaves (Genuine .wifiGetConfig) (reqWifiGetConfig env rpc) m := by
  refine leaves_template hOld fun p => ?_
  refine leaves_edit ?_
  refine leaves_guard fun hIface => ?_
  rw [truth_eq_zero] at hIface
  refine leaves_guard fun _ => ?_
  refine leaves_element ?_
  refine leaves_ite (fun hSta => ?_) fun hAp => ?_
  · apply leaves_copySta
    simp [u8, u32] at hSta ⊢
    omega
  · apply leaves_copyApConfig
    simp [u8, u32] at hIface hAp ⊢
    omega

theorem copyApRecord_fits {i : Nat} {r : Rec} {q : Msg} (h : ApRecordFits q) :
    ApRecordFits (copyApRecordToRpcStruct env i r q).2 := by
  obtain ⟨hSsid, hBssid, hCountry⟩ := h
  unfold copyApRecordToRpcStruct ApRecordFits
  split
  · exact ⟨hSsid, hBssid, hCountry⟩
  · split
    · simp [cStr_length, hBssid]
      exact hCountry
    · split
      · simp [cStr_length, Nat.min_le_left]
        exact hCountry
      · simp [cStr_length, Nat.min_le_left]

theorem newApRecord_fits : ApRecordFits (({} : Msg).withSub .country {}) := by
  simp [ApRecordFits]

theorem leaves_wifiStaGetApInfo (hOld : m.store = none) :
    Leaves (Genuine .wifiStaGetApInfo) (reqWifiStaGetApInfo env) m := by
  have hFits : ApRecordFits
      (copyApRecordToRpcStruct env 0 env.out (({} : Msg).withSub .country {})).2 :=
    copyApRecord_fits newApRecord_fits
  refine leaves_simple hOld ?_
  refine leaves_guard fun _ => ?_
  refine leaves_element ?_
  refine leaves_element ?_
  refine leaves_alloc (by decide) ?_
  refine leaves_edit ?_
  refine leaves_ite (fun hCopied => ?_) fun _ => leaves_error (by decide)
  refine leaves_end ?_
  intro _
  simp [RespBodyReads, RespBodyFits, ApInfoFits, hFits]

/-- The loop over the records, once the list of the response holds those before. -/
theorem leaves_copyApRecords {i : Nat} {rs : List Rec} {p : Msg}
    (hNumber : p.num .number = (p.list .apRecords).length + rs.length)
    (hSmall : p.num .number < 65536) (hFits : ∀ q ∈ p.list .apRecords, ApRecordFits q) :
    Leaves (Genuine .wifiScanGetApRecords) (copyApRecords env i rs) (m.put (some p)) := by
  induction rs generalizing i p with
  | nil =>
    refine leaves_end ?_
    intro _
    refine ⟨fun env' => ⟨fun _ _ _ => ?_, fun _ _ _ q hq => ?_⟩, by simp⟩
    · simp at hNumber
      omega
    · exact hFits q (List.mem_of_mem_take hq)
  | cons r rs ih =>
    refine leaves_alloc (by decide) ?_
    refine leaves_alloc (by decide) ?_
    refine leaves_alloc (by decide) ?_
    refine leaves_ite (fun hCopied => ?_) fun _ => leaves_failure (by decide)
    refine leaves_edit ?_
    refine ih ?_ hSmall ?_
    · simp at hNumber ⊢
      omega
    · intro q hq
      simp only [withList_list, if_true, List.mem_append, List.mem_singleton] at hq
      rcases hq with hq | rfl
      · exact hFits q hq
      · exact copyApRecord_fits newApRecord_fits

theorem leaves_wifiScanGetApRecords (hOld : m.store = none) :
    Leaves (Genuine .wifiScanGetApRecords) (reqWifiScanGetApRecords env rpc) m := by
  have hNone : Genuine .wifiScanGetApRecords {} := by
    intro _
    simp [RespBodyReads, RespBodyFits, ApRecordsRead, ApRecordsFit]
  refine leaves_simple hOld ?_
  refine leaves_deref fun p => ?_
  refine leaves_guard fun _ => ?_
  refine leaves_need (fun hFound => ?_) fun _ => hNone
  refine leaves_need (fun hGot => ?_) fun _ => hNone
  refine leaves_edit ?_
  refine leaves_alloc (by decide) ?_
  refine leaves_copyApRecords ?_ ?_ ?_
  · simp
  · simp
    omega
  · simp

/-- The loop over the stations. -/
theorem leaves_copyStas {c : Call} {i : Nat} {rs : List Rec} {p : Msg}
    {k : List Msg → Handler Unit}
    (h : ∀ qs : List Msg, qs.length = rs.length → (∀ q ∈ qs, (q.bytes .mac).length ≤ 6) →
      Leaves (Genuine c) (k qs) (m.put (some p))) :
    Leaves (Genuine c) (do let qs ← copyStas env i rs; k qs) (m.put (some p)) := by
  induction rs generalizing i k with
  | nil => exact h [] rfl (by simp)
  | cons r rs ih =>
    unfold Leaves copyStas
    simp only [wp_bind, wp_allocOr]
    split
    · split
      · have hRest := ih (i := i + 1) (k := fun qs => k ((({} : Msg).withBytes .mac
          ((r.buf .mac).take 6) |>.withNums r [.rssi, .bitmask]) :: qs)) fun qs hLen hMac => ?_
        · unfold Leaves at hRest
          rwa [wp_bind] at hRest
        · refine h _ (by simp [hLen]) fun q hq => ?_
          rcases List.mem_cons.mp hq with rfl | hq
          · simp [Nat.min_le_left]
          · exact hMac q hq
      · exact sound_put.mpr (genuine_of_error (by decide))
    · exact sound_put.mpr (genuine_of_error (by decide))

theorem leaves_wifiApGetStaList (hOld : m.store = none) :
    Leaves (Genuine .wifiApGetStaList) (reqWifiApGetStaList env) m := by
  refine leaves_simple hOld ?_
  refine leaves_guard fun _ => ?_
  refine leaves_element ?_
  refine leaves_need (fun hSome => ?_) fun _ => ?_
  · refine leaves_copyStas fun qs hLen hMac => ?_
    refine leaves_last ?_
    refine leaves_edit ?_
    refine leaves_end ?_
    intro _
    have hNum : numStations ((({} : Msg).withList .sta qs).withNum .num env.numStas) ≤
        qs.length := by
      have hLe := env.numStas_le
      simp only [numStations, withNum_num, if_true, u32, hLen]
      omega
    simp [RespBodyReads, RespBodyFits, StaListRead, StaListFits, hNum]
    exact fun _ q hq => hMac q (List.mem_of_mem_take hq)
  · intro _
    simp [RespBodyReads, RespBodyFits, StaListRead, StaListFits, numStations, u32]

end Calls

/-- Every response that a handler leaves behind is genuine. -/
theorem leaves_commandHandler {env : CpEnv} {rpc : ReqRpc} {c : Call} {m : Mem (Option Msg)}
    (hOld : m.store = none) : Leaves (Genuine c) (commandHandler env rpc c) m := by
  cases c
  case getMACAddress => exact leaves_getMACAddress hOld
  case wifiGetConfig => exact leaves_wifiGetConfig hOld
  case wifiScanGetApRecords => exact leaves_wifiScanGetApRecords hOld
  case wifiStaGetApInfo => exact leaves_wifiStaGetApInfo hOld
  case wifiGetCountryCode => exact leaves_wifiGetCountryCode hOld
  case wifiGetCountry => exact leaves_wifiGetCountry hOld
  case wifiApGetStaList => exact leaves_wifiApGetStaList hOld
  case ifaceMacAddrSetGet => exact leaves_ifaceMacAddrSetGet hOld
  case appGetDesc => exact leaves_appGetDesc hOld
  case wifiScanParams => exact leaves_wifiScanParams hOld
  case wifiGetProtocols =>
    exact leaves_getBands (fun p hp _ => ⟨fun _ => ⟨hp, trivial⟩, by simp⟩) hOld
  case wifiGetBandwidths =>
    exact leaves_getBands (fun p hp _ => ⟨fun _ => ⟨hp, trivial⟩, by simp⟩) hOld
  all_goals
    refine leaves_of_plain (fun p _ => ⟨fun env' => ?_, by simp⟩) _
    exact ⟨trivial, trivial⟩

/-! ## Calls of the driver -/

/-- The calls whose handler hands them to the driver and answers with what it returns. Some free
credentials before (`wifiDeinit`, `wifiStaEnterpriseDisable`), and `wifiStart` sends events
after. -/
def Call.forwarded : Call → Bool
  | .setWifiMode | .suppDppInit | .suppDppDeinit | .suppDppStartListen | .suppDppStopListen
  | .wifiSetPs | .wifiSetMaxTxPower | .configHeartbeat | .wifiDeinit | .wifiStart | .wifiStop
  | .wifiDisconnect | .wifiScanStop | .wifiClearApList | .wifiRestore | .wifiClearFastConnect
  | .wifiDeauthSta | .wifiSetProtocol | .wifiSetBandwidth | .wifiSetChannel | .wifiSetStorage
  | .wifiSetInactiveTime | .wifiSetBand | .wifiSetBandMode | .wifiStaItwtTeardown
  | .wifiStaItwtSuspend | .wifiStaItwtSendProbeReq | .wifiStaItwtSetTargetWakeTimeOffset
  | .wifiStaEnterpriseEnable | .wifiStaEnterpriseDisable | .eapSetTtlsPhase2Method
  | .eapSetSuitebCertification | .eapUseDefaultCertBundle | .eapSetDisableTimeCheck
  | .eapSetEapMethods | .getWifiMode | .wifiGetPs | .wifiGetMaxTxPower | .wifiScanGetApNum
  | .wifiGetProtocol | .wifiGetBandwidth | .wifiGetChannel | .wifiGetInactiveTime
  | .wifiStaGetAid | .wifiStaGetNegotiatedPhymode | .wifiStaGetRssi | .wifiGetBand
  | .wifiGetBandMode | .wifiStaItwtGetFlowIdStatus | .eapGetDisableTimeCheck => true
  | _ => false

section Forwarded

variable {env : CpEnv} {rpc : ReqRpc} {c : Call} {m : Mem (Option Msg)}

theorem withNums_resp {r : Rec} {fs : List Field} (h : .resp ∉ fs) (p : Msg) :
    (p.withNums r fs).num .resp = p.num .resp := by
  unfold Msg.withNums
  induction fs generalizing p with
  | nil => rfl
  | cons f fs ih =>
    simp only [List.mem_cons, not_or] at h
    rw [List.foldl_cons, ih h.2, withNum_num, if_neg h.1]

theorem leaves_retFailIf :
    Leaves (fun p => p.num .resp = env.ret) (retFailIf env.ret) (m.put (some {})) := by
  unfold Leaves
  rw [wp_retFailIf]
  split
  · rename_i hRet
    exact sound_put.mpr hRet.symm
  · exact sound_put.mpr (by simp)

theorem leaves_getNums {fs : List Field} (h : .resp ∉ fs) :
    Leaves (fun p => p.num .resp = env.ret) (getNums env fs) (m.put (some {})) := by
  unfold Leaves
  rw [wp_getNums]
  split
  · rename_i hRet
    exact sound_put.mpr ((withNums_resp h _).trans hRet.symm)
  · exact sound_put.mpr (by simp)

/-- The response says what the driver returned. -/
theorem leaves_forwarded (hForwarded : c.forwarded = true) (hOld : m.store = none) :
    Leaves (fun p => p.num .resp = env.ret) (commandHandler env rpc c) m := by
  cases c
  case getWifiMode | wifiGetPs | wifiGetMaxTxPower | wifiScanGetApNum | wifiGetChannel
      | wifiStaGetAid | wifiStaGetNegotiatedPhymode | wifiStaGetRssi | wifiGetBand
      | wifiGetBandMode | wifiStaItwtGetFlowIdStatus | eapGetDisableTimeCheck =>
    exact leaves_simple hOld (leaves_getNums (by decide))
  case setWifiMode | suppDppInit | wifiSetPs | wifiSetMaxTxPower | configHeartbeat
      | wifiDeauthSta | wifiSetProtocol | wifiSetBandwidth | wifiSetChannel | wifiSetStorage
      | wifiSetInactiveTime | wifiSetBand | wifiSetBandMode | wifiStaItwtTeardown
      | wifiStaItwtSuspend | wifiStaItwtSendProbeReq | wifiStaItwtSetTargetWakeTimeOffset
      | eapSetTtlsPhase2Method | eapSetSuitebCertification | eapUseDefaultCertBundle
      | eapSetDisableTimeCheck | eapSetEapMethods =>
    exact leaves_template hOld fun _ => leaves_retFailIf
  case suppDppDeinit | suppDppStartListen | suppDppStopListen | wifiDeinit | wifiStart
      | wifiStop | wifiDisconnect | wifiScanStop | wifiClearApList | wifiRestore
      | wifiClearFastConnect | wifiStaEnterpriseEnable | wifiStaEnterpriseDisable =>
    exact leaves_simple hOld leaves_retFailIf
  case wifiGetProtocol | wifiGetBandwidth | wifiGetInactiveTime =>
    exact leaves_template hOld fun _ => leaves_getNums (by decide)
  all_goals cases hForwarded

/-- A genuine payload, with the answer of the driver if there is only that. -/
def Answer (env : CpEnv) (c : Call) (p : Msg) : Prop :=
  Genuine c p ∧ (c.forwarded = true → p.num .resp = env.ret)

theorem leaves_answer (hOld : m.store = none) :
    Leaves (Answer env c) (commandHandler env rpc c) m := by
  have hGenuine : Leaves (Genuine c) (commandHandler env rpc c) m := leaves_commandHandler hOld
  cases hForwarded : c.forwarded with
  | false =>
    refine wp_mono (fun _ _ h => h) (fun _ h p hp => ⟨h p hp, ?_⟩)
      (fun _ _ h p hp => ⟨h p hp, ?_⟩) hGenuine <;>
    simp [hForwarded]
  | true =>
    have hResp : Leaves (fun p => p.num .resp = env.ret) (commandHandler env rpc c) m :=
      leaves_forwarded hForwarded hOld
    exact wp_mono (fun _ _ _ => trivial) (fun _ h p hp => ⟨h.1 p hp, fun _ => h.2 p hp⟩)
      (fun _ _ h p hp => ⟨h.1 p hp, fun _ => h.2 p hp⟩) (wp_and hGenuine hResp)

end Forwarded

/-! ## The response to a request -/

/-- The response carries the uid of the request. Without a handler it has the id that says so and
no payload, and otherwise the id of the call, and a genuine payload exactly if the handler
answered. -/
structure Replies (env : CpEnv) (rpc : ReqRpc) (reply : Rpc) : Prop where
  msgType : reply.msgType = typeResp
  uid : reply.uid = rpc.uid
  unknown : lookupReqHandler rpc = none → reply.msgId = respBase ∧ reply.payload = none
  known : ∀ c, lookupReqHandler rpc = some c → reply.msgId = c.respId ∧
    (¬Answered env rpc c → reply.payload = none) ∧
    (Answered env rpc c → ∃ p, reply.payload = some (.resp c, p) ∧ Answer env c p)

/-- The handler filled in a payload exactly if it answered. -/
def FilledIn (env : CpEnv) (rpc : ReqRpc) (c : Call) (m : Mem (Option Msg)) : Prop :=
  m.Good ∧ (m.store.isSome ↔ Answered env rpc c)

theorem ready_filledIn {env : CpEnv} {rpc : ReqRpc} {c : Call} {m : Mem (Option Msg)}
    (hGood : m.Good) (hOld : m.store = none) : Ready env rpc c (FilledIn env rpc c) m where
  edit m f := by simp [FilledIn, edited]
  note m as := by
    simp only [FilledIn, Mem.good_note, Mem.note_store]
    tauto
  silent h := ⟨hGood, by simp [hOld, h]⟩
  opened h := ⟨hGood, by simp [h]⟩

/-- The response after a handler. -/
theorem replies_after {env : CpEnv} {rpc : ReqRpc} {c : Call} {m : Mem (Option Msg)}
    (hCall : lookupReqHandler rpc = some c) (h : FilledIn env rpc c m ∧ Sound (Answer env c) m) :
    Replies env rpc ⟨typeResp, c.respId, rpc.uid, m.store.map fun p => (.resp c, p)⟩ where
  msgType := rfl
  uid := rfl
  unknown hNone := by simp [hCall] at hNone
  known d hd := by
    obtain rfl : c = d := by simpa [hCall] using hd
    obtain ⟨⟨-, hIff⟩, hSound⟩ := h
    cases hStore : m.store with
    | none => simpa [hStore] using hIff
    | some p =>
      have hAnswered : Answered env rpc c := by simpa [hStore] using hIff
      exact ⟨rfl, fun hNot => absurd hAnswered hNot, fun _ => ⟨p, rfl, hSound p hStore⟩⟩

/-- A response of `data_transfer_handler`, from a run that stays inside. -/
theorem replies_dataTransferHandler {env : CpEnv} {rpc : ReqRpc} {m m' : Mem (Option Msg)}
    {reply : Rpc} (hOld : m.store = none) (hGood : m.Good)
    (hInside : InBounds (dataTransferHandler env rpc) m)
    (hRun : dataTransferHandler env rpc m = .done (some reply) m') : Replies env rpc reply := by
  have hAll : wp (dataTransferHandler env rpc) (fun _ _ => True) (fun _ => True)
      (fun o _ => ∀ r, o = some r → Replies env rpc r) m := by
    unfold dataTransferHandler espRpcCommandDispatcher
    rw [wp_ite]
    split
    · rename_i hAlloc
      simp only [wp_bind]
      cases hCall : lookupReqHandler rpc with
      | none =>
        simp only [wp_pure, wp_get, wp_ite, Option.bind_none]
        split
        · rintro r ⟨rfl⟩
          exact ⟨rfl, rfl, fun _ => ⟨rfl, rfl⟩, by simp [hCall]⟩
        · simp
      | some c =>
        simp only [wp_bind, wp_attempt, wp_pure, wp_get, wp_ite, Option.bind_some]
        have hFilled := (wp_commandHandler (ready_filledIn hGood hOld)).mpr
          ((inBounds_handler hGood hAlloc hCall).mp hInside)
        have hSound : Leaves (Answer env c) (commandHandler env rpc c) m := leaves_answer hOld
        refine wp_mono (fun _ _ _ => trivial) (fun m' hm' => ?_) (fun _ m' hm' => ?_)
          (wp_and hFilled hSound)
        all_goals
          split
          · rintro r ⟨rfl⟩
            exact replies_after hCall hm'
          · simp
    · simp
  exact (wp_of_eq hRun).mp hAll reply rfl

end EspHosted.Codec
