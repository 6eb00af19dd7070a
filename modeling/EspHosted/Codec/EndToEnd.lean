import EspHosted.Codec.Reply

/-!
# A request and its response, end to end

The host parses the response that the co-processor made, and `rpc_rsp_callback` turns the result
into the status that the caller of a synchronous wrapper gets.

* `inBounds_reply`: which responses the host parses without harm. These are all but the ones of
  the calls whose branch reads a member of another call, or reads its own before it tests it.
* `status_reply`: what the caller gets. A response without a payload counts as success.
* `status_forwarded`: for a call that the co-processor hands to its driver, the caller gets what
  the driver answered.
-/

namespace EspHosted.Codec

open Checked Checked.Prog

/-! ## The status that a caller gets -/

/-- `rpc_rsp_callback`. The errors of `process_failed_responses` are logged and kept. -/
def rpcRspCallback : Option CtrlCmd → Int
  | none => hFail
  | some a =>
    if a.msgType ≠ typeResp then hFail
    else if a.msgId < respBase ∨ respMax ≤ a.msgId then hFail
    else if a.respEventStatus ≠ 0 then a.respEventStatus
    else if a.msgId = respBase then a.respEventStatus
    else
      match respCall a.msgId with
      | none | some .getDhcpDnsStatus => hFail
      | some .wifiScanGetApRecords =>
        if a.u.num .number ≠ 0 ∧ a.outList.isNone then hFail else a.respEventStatus
      | some _ => a.respEventStatus

/-! ## What a branch leaves alone -/

/-- The part of a result that is not the answer itself. -/
def CtrlCmd.header (a : CtrlCmd) : Nat × Nat × Nat × Int :=
  (a.msgType, a.msgId, a.uid, a.respEventStatus)

section Branches

variable {σ γ : Type} {v : σ → γ}

theorem spares_rpcRspCopyBytes (room : Nat) (src : List UInt8) :
    Spares v (rpcRspCopyBytes room src) :=
  .ite (.pure _) (.memcpy room src src.length)

theorem spares_rpcUtilsCopyBytes (room : Nat) (src : List UInt8) :
    Spares v (rpcUtilsCopyBytes room src) :=
  .ite (.pure _) (.memcpy room src _)

theorem spares_setU (f : Rec → Rec) : Spares CtrlCmd.header (setU f) := .modify fun _ => rfl

theorem spares_copyNums (p : Msg) (fs : List Field) :
    Spares CtrlCmd.header (copyNums p fs) := spares_setU _

theorem spares_outList (rs : Option (List Rec)) :
    Spares CtrlCmd.header (modify fun a => { a with outList := rs }) := .modify fun _ => rfl

theorem spares_sta (rs : List Rec) :
    Spares CtrlCmd.header (modify fun a => { a with sta := rs }) := .modify fun _ => rfl

theorem spares_words (words : List Int) :
    Spares CtrlCmd.header (modify fun a => { a with words := words }) := .modify fun _ => rfl

theorem spares_copyToU (f : Field) (room : Nat) (src : List UInt8) :
    Spares CtrlCmd.header (copyToU f room src) :=
  (spares_rpcRspCopyBytes room src).bind fun _ => spares_setU _

theorem spares_rpcCopyApRecord (r : Msg) : Spares v (rpcCopyApRecord r) := by
  refine (spares_rpcRspCopyBytes _ _).bind fun _ => ?_
  refine (spares_rpcRspCopyBytes _ _).bind fun _ => ?_
  cases r.sub .country with
  | none => exact .pure _
  | some country => exact (spares_rpcRspCopyBytes _ _).bind fun _ => .pure _

theorem spares_copyStaInfo (r : Msg) : Spares v (copyStaInfo r) :=
  (spares_rpcRspCopyBytes _ _).bind fun _ => .pure _

theorem spares_rpcCopyWifiStaConfig (src : Msg) :
    Spares CtrlCmd.header (rpcCopyWifiStaConfig src) := by
  refine (spares_rpcUtilsCopyBytes _ _).bind fun _ => ?_
  refine (spares_rpcUtilsCopyBytes _ _).bind fun _ => ?_
  refine (spares_rpcUtilsCopyBytes _ _).bind fun _ => ?_
  refine (spares_setU _).bind fun _ => ?_
  cases src.sub .pmfCfg with
  | none => exact .pure _
  | some pmf => exact (spares_setU _).bind fun _ => spares_setU _

theorem spares_parseGetConfig (p : Msg) : Spares CtrlCmd.header (parseGetConfig p) := by
  refine (Spares.need _).bind fun _ => ?_
  refine (Spares.load _).bind fun cfg => ?_
  refine (spares_setU _).bind fun _ => ?_
  refine .ite ?_ (.ite ?_ (.pure _))
  · refine (Spares.nonNull _).bind fun sta => ?_
    exact spares_rpcCopyWifiStaConfig _
  · refine (Spares.nonNull _).bind fun ap => ?_
    refine (spares_copyToU _ _ _).bind fun _ => ?_
    refine (spares_copyToU _ _ _).bind fun _ => ?_
    exact spares_setU _

theorem spares_parseApRecords (env : HostEnv) (p : Msg) :
    Spares CtrlCmd.header (parseApRecords env p) := by
  refine (spares_setU _).bind fun _ => ?_
  refine (Spares.need _).bind fun _ => ?_
  refine (Spares.need _).bind fun _ => ?_
  refine (Spares.need _).bind fun _ => ?_
  refine (spares_outList _).bind fun _ => ?_
  refine (Spares.takeEach spares_rpcCopyApRecord _ _).bind fun rs => ?_
  refine .ite ?_ (.fault _)
  exact (Spares.note _).bind fun _ => spares_outList _

theorem spares_parseApInfo (env : HostEnv) (p : Msg) :
    Spares CtrlCmd.header (parseApInfo env p) := by
  refine (spares_setU _).bind fun _ => ?_
  refine (Spares.need _).bind fun _ => ?_
  refine (Spares.need _).bind fun _ => ?_
  refine (spares_outList _).bind fun _ => ?_
  refine (Spares.load _).bind fun r => ?_
  refine (spares_rpcCopyApRecord r).bind fun _ => ?_
  exact spares_outList _

theorem spares_parseStaList (p : Msg) : Spares CtrlCmd.header (parseStaList p) := by
  refine (Spares.load _).bind fun _ => ?_
  refine (Spares.takeEach spares_copyStaInfo _ _).bind fun _ => ?_
  refine (Spares.note _).bind fun _ => ?_
  refine (spares_sta _).bind fun _ => ?_
  exact spares_setU _

theorem spares_parseFwVersion (p : Msg) : Spares CtrlCmd.header (parseFwVersion p) := by
  refine (spares_setU _).bind fun _ => ?_
  refine (spares_setU _).bind fun _ => ?_
  refine (spares_setU _).bind fun _ => ?_
  refine .ite (.pure _) ?_
  refine (Spares.memcpy _ _ _).bind fun _ => ?_
  exact spares_setU _

theorem spares_parseCustomRpc (env : HostEnv) (p : Msg) :
    Spares CtrlCmd.header (parseCustomRpc env p) := by
  refine (spares_setU _).bind fun _ => ?_
  refine .ite (.pure _) ?_
  refine (Spares.need _).bind fun _ => ?_
  refine (Spares.memcpy _ _ _).bind fun _ => ?_
  exact spares_setU _

theorem spares_parseAppDesc (p : Msg) : Spares CtrlCmd.header (parseAppDesc p) := by
  refine (Spares.need _).bind fun _ => ?_
  refine (Spares.load _).bind fun d => ?_
  refine (spares_copyNums d _).bind fun _ => ?_
  refine (spares_copyToU _ _ _).bind fun _ => ?_
  refine (spares_copyToU _ _ _).bind fun _ => ?_
  refine (spares_copyToU _ _ _).bind fun _ => ?_
  refine (spares_copyToU _ _ _).bind fun _ => ?_
  refine (spares_copyToU _ _ _).bind fun _ => ?_
  refine (spares_copyToU _ _ _).bind fun _ => ?_
  exact spares_setU _

theorem spares_needMemInfo (p : Msg) : Spares CtrlCmd.header (needMemInfo p) := by
  refine (Spares.need _).bind fun _ => ?_
  refine (Spares.load _).bind fun _ => ?_
  refine (Spares.need _).bind fun _ => ?_
  refine (Spares.need _).bind fun _ => ?_
  refine (Spares.need _).bind fun _ => ?_
  refine (Spares.load _).bind fun _ => ?_
  refine (Spares.need _).bind fun _ => ?_
  exact .need _

theorem spares_memInfo (p : Msg) : Spares CtrlCmd.header (memInfo p) := by
  refine (Spares.load _).bind fun _ => ?_
  refine (Spares.load _).bind fun _ => ?_
  refine (Spares.load _).bind fun _ => ?_
  refine (Spares.load _).bind fun _ => ?_
  refine (Spares.load _).bind fun _ => ?_
  refine (Spares.load _).bind fun _ => ?_
  exact .pure _

theorem spares_parseMemMonitor (p : Msg) : Spares CtrlCmd.header (parseMemMonitor p) := by
  have hRest : Spares CtrlCmd.header (do
      copyNums p [.reportAlways, .intervalSec, .currTotalHeapSize]
      let words ← memInfo p
      modify fun a => { a with words := words }) := by
    refine (spares_setU _).bind fun _ => ?_
    refine (spares_memInfo p).bind fun words => ?_
    exact spares_words words
  refine (spares_needMemInfo p).bind fun _ => ?_
  refine .ite ?_ hRest
  exact (spares_setU _).bind fun _ => hRest

theorem spares_parseBands (p : Msg) (f : Field) : Spares CtrlCmd.header (parseBands p f) := by
  refine (spares_setU _).bind fun _ => ?_
  refine (Spares.load _).bind fun _ => ?_
  exact spares_setU _

theorem spares_parseRespBody (env : HostEnv) (c : Call) (p : Msg) :
    Spares CtrlCmd.header (parseRespBody env c p) := by
  cases c
  case wifiGetConfig => exact spares_parseGetConfig p
  case wifiScanGetApRecords => exact spares_parseApRecords env p
  case wifiStaGetApInfo => exact spares_parseApInfo env p
  case wifiApGetStaList => exact spares_parseStaList p
  case getCoprocessorFwVersion => exact spares_parseFwVersion p
  case customRpc => exact spares_parseCustomRpc env p
  case appGetDesc => exact spares_parseAppDesc p
  case memMonitor => exact spares_parseMemMonitor p
  case wifiGetProtocols => exact spares_parseBands p _
  case wifiGetBandwidths => exact spares_parseBands p _
  case getMACAddress => exact (Spares.need _).bind fun _ => spares_copyToU _ _ _
  case wifiGetCountryCode => exact spares_copyToU _ _ _
  case ifaceMacAddrSetGet => exact spares_copyToU _ _ _
  case wifiGetCountry =>
    exact (Spares.load _).bind fun country => (spares_copyToU _ _ _).bind fun _ =>
      spares_copyNums country _
  all_goals first
    | exact .pure ()
    | exact spares_copyNums p _

end Branches

/-! ## Which responses are read as what they are -/

/-- The branches of the host that test the member of another call than their own. -/
def Call.readsOther : Call → Bool
  | .wifiScanGetApRecord | .wifiStaItwtSendProbeReq | .wifiSetBand | .wifiSetBandMode => true
  | _ => false

/-- The host reads another member than the one in the response, or one that is not there. -/
def Misread (env : CpEnv) (rpc : ReqRpc) (c : Call) : Prop :=
  (c.readsOther = true ∧ Answered env rpc c) ∨ (c = .wifiScanParams ∧ ¬Answered env rpc c)

theorem respCall_respId (c : Call) : respCall c.respId = some c := by
  cases c <;> rfl

section Reads

variable {henv : HostEnv} {reply : Rpc} {c : Call} {p : Msg}

theorem respCallReads_silent (hNone : reply.payload = none) :
    RespCallReads henv reply c ↔ c ≠ .wifiScanParams := by
  have hGuarded (a : Member) (P : Msg → Prop) : Guarded reply a P := by
    intro b p hp
    simp [hNone] at hp
  cases c
  case wifiScanParams => simp [RespCallReads, hNone]
  case getDhcpDnsStatus => exact iff_of_true trivial (by decide)
  all_goals exact iff_of_true (hGuarded _ _) (by decide)

theorem guarded_answer {a : Member} {P : Msg → Prop}
    (hPayload : reply.payload = some (.resp c, p)) :
    Guarded reply a P ↔ .resp c = a ∧ P p := by
  unfold Guarded
  rw [hPayload]
  simp

theorem respCallReads_answer (hPayload : reply.payload = some (.resp c, p)) (hp : Genuine c p) :
    RespCallReads henv reply c ↔ c.readsOther = false := by
  have hOwn : p.num .resp = 0 → RespBodyReads henv c p := fun h => ((hp h).1 henv).1
  cases c
  case getDhcpDnsStatus => exact iff_of_true trivial rfl
  case wifiScanParams => exact iff_of_true ⟨p, hPayload, fun h => (hp h).2 rfl⟩ rfl
  case wifiScanGetApRecord | wifiStaItwtSendProbeReq | wifiSetBand | wifiSetBandMode =>
    refine iff_of_false (fun h => ?_) (by decide)
    exact absurd ((guarded_answer hPayload).mp h).1 (by decide)
  all_goals exact iff_of_true ((guarded_answer hPayload).mpr ⟨rfl, hOwn⟩) rfl

/-- The host parses a response without harm, however much memory it has, exactly if it does not
misread it. -/
theorem inBounds_of_replies {env : CpEnv} {rpc : ReqRpc} {m : Mem CtrlCmd}
    (h : Replies env rpc reply) (hGood : m.Good) :
    InBounds (rpcParseRsp henv reply) m ↔
      ∀ c, lookupReqHandler rpc = some c → ¬Misread env rpc c := by
  rw [inBounds_rpcParseRsp henv reply hGood]
  unfold RspReads RspFits
  cases hCall : lookupReqHandler rpc with
  | none => simp [(h.unknown hCall).1, respCall_respBase]
  | some c =>
    obtain ⟨hId, hSilent, hAnswer⟩ := h.known c hCall
    simp only [hId, respCall_respId, Option.some.injEq, forall_eq']
    unfold Misread
    by_cases hAnswered : Answered env rpc c
    · obtain ⟨p, hPayload, hp⟩ := hAnswer hAnswered
      have hFits : RespCallFits henv reply c := by
        intro q hq hResp
        obtain rfl : p = q := by simpa [hPayload] using hq
        exact ((hp.1 hResp).1 henv).2
      rw [respCallReads_answer hPayload hp.1]
      simp [hFits, hAnswered]
    · have hNone := hSilent hAnswered
      have hFits : RespCallFits henv reply c := by
        intro q hq
        simp [hNone] at hq
      rw [respCallReads_silent hNone]
      simp [hFits, hAnswered]

end Reads

/-! ## What the caller gets -/

/-- Records are announced, but the host has no list of them. -/
def ListMissing (henv : HostEnv) (p : Msg) : Prop :=
  p.num .number ≠ 0 ∧ (p.list .apRecords = [] ∨ henv.callocList = false)

instance (henv : HostEnv) (p : Msg) : Decidable (ListMissing henv p) := by
  unfold ListMissing
  infer_instance

/-- The status of a call, by the payload of its response: the error that it holds, success if it
says so and the host has memory for it, and success too if there is no payload. -/
def verdict (henv : HostEnv) (c : Call) (payload : Option (Member × Msg)) : Int :=
  if c = .getDhcpDnsStatus then hFail
  else
    match payload with
    | none => hOk
    | some (_, p) =>
      if p.num .resp ≠ 0 then p.num .resp
      else if c = .wifiScanGetApRecords ∧ ListMissing henv p then hFail
      else hOk

section Status

variable {henv : HostEnv} {reply : Rpc} {c : Call} {p : Msg} {m : Mem CtrlCmd}

theorem respId_bounds (c : Call) : respBase < c.respId ∧ c.respId < respMax := by
  cases c <;> decide

/-- The callback looks at the header alone, except for a list of records. -/
theorem rpcRspCallback_of_header {a : CtrlCmd} {uid : Nat} {x : Int}
    (h : a.header = (typeResp, c.respId, uid, x)) :
    rpcRspCallback (some a) = if x ≠ 0 then x
      else if c = .getDhcpDnsStatus then hFail
      else if c = .wifiScanGetApRecords ∧ a.u.num .number ≠ 0 ∧ a.outList.isNone then hFail
      else hOk := by
  unfold CtrlCmd.header at h
  simp only [Prod.mk.injEq] at h
  obtain ⟨hType, hId, -, hStatus⟩ := h
  obtain ⟨hLow, hHigh⟩ := respId_bounds c
  have hInside : ¬(c.respId < respBase ∨ respMax ≤ c.respId) := by omega
  have hKnown : c.respId ≠ respBase := by omega
  unfold rpcRspCallback
  simp only [hType, hId, hStatus, respCall_respId, ne_eq, not_true_eq_false, if_false, hInside,
    hKnown]
  by_cases hx : x = 0
  · simp only [hx, not_true_eq_false, if_false]
    cases c
    case wifiScanGetApRecords => simp [hOk]
    all_goals rfl
  · simp only [hx, not_false_eq_true, if_true]

/-- The branch for a list of records ends without a list exactly if one is missing. -/
theorem wp_parseApRecords_list (hNew : m.store.outList = none) :
    wp (parseApRecords henv p) (fun _ _ => True)
      (fun m' => (m'.store.u.num .number ≠ 0 ∧ m'.store.outList.isNone) ↔ ListMissing henv p)
      (fun _ m' => (m'.store.u.num .number ≠ 0 ∧ m'.store.outList.isNone) ↔ ListMissing henv p)
      m := by
  unfold parseApRecords ListMissing
  simp only [wp_bind, wp_need, wp_setU, wp_modify, wp_ite, wp_note, wp_fault]
  by_cases hNumber : p.num .number = 0
  · simp [hNumber, Rec.setNum]
  · by_cases hList : p.list .apRecords = []
    · simp [hNumber, hList, hNew, Rec.setNum]
    · by_cases hAlloc : henv.callocList = true
      · rw [wp_takeEach_apRecords (R := fun _ => True)]
        · simp [hNumber, hList, hAlloc]
        · intro rs m' _
          simp [hNumber, hList, hAlloc]
      · simp [hNumber, hList, hAlloc, hNew, Rec.setNum]

/-- What a branch leaves behind when it read a payload that says success. -/
def After (henv : HostEnv) (c : Call) (p : Msg) (m m' : Mem CtrlCmd) : Prop :=
  m'.store.header = m.store.header ∧ (c = .wifiScanGetApRecords →
    ((m'.store.u.num .number ≠ 0 ∧ m'.store.outList.isNone) ↔ ListMissing henv p))

theorem wp_parseRespBody_after (hNew : m.store.outList = none) :
    wp (parseRespBody henv c p) (fun _ _ => True) (After henv c p m)
      (fun _ => After henv c p m) m := by
  have hHeader := spares_parseRespBody henv c p m
  by_cases hList : c = .wifiScanGetApRecords
  · subst hList
    exact wp_mono (fun _ _ _ => trivial) (fun _ h => ⟨h.1, fun _ => h.2⟩)
      (fun _ _ h => ⟨h.1, fun _ => h.2⟩) (wp_and hHeader (wp_parseApRecords_list hNew))
  · exact wp_mono (fun _ _ _ => trivial) (fun _ h => ⟨h, fun h => absurd h hList⟩)
      (fun _ _ h => ⟨h, fun h => absurd h hList⟩) hHeader

/-- The caller learns what the payload says, and the result has the uid of the request. -/
def Told (henv : HostEnv) (c : Call) (reply : Rpc) (a : CtrlCmd) : Prop :=
  a.uid = reply.uid ∧ rpcRspCallback (some a) = verdict henv c reply.payload

/-- The result before the switch. -/
structure Fresh (reply : Rpc) (c : Call) (m : Mem CtrlCmd) : Prop where
  header : m.store.header = (typeResp, c.respId, reply.uid, hOk)
  number : m.store.u.num .number = 0
  outList : m.store.outList = none

theorem told_silent (h : Fresh reply c m) (hNone : reply.payload = none) :
    Told henv c reply m.store := by
  refine ⟨congrArg (fun x => x.2.2.1) h.header, ?_⟩
  rw [rpcRspCallback_of_header h.header, hNone]
  simp [verdict, h.number, hOk]

theorem told_after {m' : Mem CtrlCmd} (h : Fresh reply c m)
    (hPayload : reply.payload = some (.resp c, p)) (hResp : p.num .resp = 0)
    (hAfter : After henv c p m m') : Told henv c reply m'.store := by
  have hHeader := hAfter.1.trans h.header
  refine ⟨congrArg (fun x => x.2.2.1) hHeader, ?_⟩
  rw [rpcRspCallback_of_header hHeader, hPayload]
  unfold verdict
  by_cases hList : c = .wifiScanGetApRecords
  · subst hList
    simp [hResp, hOk, ← hAfter.2 rfl]
  · simp [hResp, hOk, hList]

theorem told_error (h : Fresh reply c m) (hCall : c ≠ .getDhcpDnsStatus)
    (hPayload : reply.payload = some (.resp c, p)) (hResp : p.num .resp ≠ 0) :
    Told henv c reply { m.store with respEventStatus := p.num .resp } := by
  have hParts := h.header
  unfold CtrlCmd.header at hParts
  simp only [Prod.mk.injEq] at hParts
  obtain ⟨hType, hId, hUid, -⟩ := hParts
  have hError : ({ m.store with respEventStatus := p.num .resp } : CtrlCmd).header =
      (typeResp, c.respId, reply.uid, p.num .resp) := by
    simp [CtrlCmd.header, hType, hId, hUid]
  refine ⟨hUid, ?_⟩
  rw [rpcRspCallback_of_header hError, hPayload]
  simp [verdict, hCall, hResp]

/-- Success is what a result says at first. -/
theorem Fresh.setStatus_after {m' : Mem CtrlCmd} (h : Fresh reply c m)
    (hAfter : After henv c p m m') :
    After henv c p m (m'.put { m'.store with respEventStatus := hOk }) := by
  refine ⟨?_, hAfter.2⟩
  have hParts := hAfter.1.trans h.header
  unfold CtrlCmd.header at hParts
  simp only [Prod.mk.injEq] at hParts
  rw [h.header]
  simp [CtrlCmd.header, hParts.1, hParts.2.1, hParts.2.2.1]

theorem told_checked {body : Msg → Prog CtrlCmd Unit} (h : Fresh reply c m)
    (hCall : c ≠ .getDhcpDnsStatus) (hPayload : reply.payload = some (.resp c, p))
    (hBody : wp (body p) (fun _ _ => True) (After henv c p m) (fun _ => After henv c p m) m) :
    wp (do checked reply c body; setStatus hOk) (fun _ _ => True)
      (fun m' => Told henv c reply m'.store) (fun _ m' => Told henv c reply m'.store) m := by
  have hMember : reply.member (.resp c) = .obj p := by
    unfold Rpc.member
    rw [hPayload]
    exact if_pos rfl
  unfold checked
  simp only [wp_bind, hMember, wp_nonNull_obj, wp_setStatus]
  by_cases hResp : p.num .resp = 0
  · rw [if_pos hResp]
    exact wp_mono (fun _ _ _ => trivial) (fun _ h' => told_after h hPayload hResp h')
      (fun _ _ h' => told_after h hPayload hResp (h.setStatus_after h')) hBody
  · rw [if_neg hResp]
    exact told_error h hCall hPayload hResp

theorem told_checked_silent {d : Call} {body : Msg → Prog CtrlCmd Unit} (h : Fresh reply c m)
    (hNone : reply.payload = none) :
    wp (do checked reply d body; setStatus hOk) (fun _ _ => True)
      (fun m' => Told henv c reply m'.store) (fun _ m' => Told henv c reply m'.store) m := by
  have hMember : reply.member (.resp d) = .null := by
    unfold Rpc.member
    rw [hNone]
  unfold checked
  simp only [wp_bind, hMember, wp_nonNull_null]
  exact told_silent h hNone

theorem spares_parseScanParams (q : Msg) : Spares CtrlCmd.header (parseScanParams q) := by
  unfold parseScanParams
  cases q.sub .config with
  | none => exact .pure ()
  | some config =>
    exact (Spares.load _).bind fun t => (Spares.load _).bind fun active =>
      (spares_copyNums t _).bind fun _ => (spares_copyNums active _).bind fun _ =>
        spares_copyNums config _

/-- The branch of a call that does not read the member of another call, and the end of the
function. -/
theorem told_parseResp (h : Fresh reply c m)
    (hPayload : reply.payload = none ∨
      ∃ p, reply.payload = some (.resp c, p) ∧ c.readsOther = false) :
    wp (do parseResp henv reply c; setStatus hOk) (fun _ _ => True)
      (fun m' => Told henv c reply m'.store) (fun _ m' => Told henv c reply m'.store) m := by
  rcases hPayload with hNone | ⟨p, hPayload, hOwn⟩
  · have hMember : reply.member (.resp .wifiScanParams) = .null := by
      unfold Rpc.member
      rw [hNone]
    cases c
    case wifiScanParams => simp [parseResp, hMember]
    case getDhcpDnsStatus => exact told_silent h hNone
    all_goals exact told_checked_silent h hNone
  · have hMember : reply.member (.resp c) = .obj p := by
      unfold Rpc.member
      rw [hPayload]
      exact if_pos rfl
    cases c
    case wifiScanGetApRecord | wifiStaItwtSendProbeReq | wifiSetBand | wifiSetBandMode =>
      exact absurd hOwn (by decide)
    case getDhcpDnsStatus =>
      refine ⟨congrArg (fun x => x.2.2.1) h.header, ?_⟩
      rw [rpcRspCallback_of_header h.header]
      rfl
    case wifiScanParams =>
      have hAfter (m' : Mem CtrlCmd) (h' : m'.store.header = m.store.header) :
          After henv .wifiScanParams p m m' := ⟨h', fun h => by cases h⟩
      have hBody : wp (parseScanParams p) (fun _ _ => True) (After henv .wifiScanParams p m)
          (fun _ => After henv .wifiScanParams p m) m :=
        wp_mono (fun _ _ _ => trivial) hAfter (fun _ => hAfter) (spares_parseScanParams p m)
      have hRest : wp (do checked reply .wifiScanParams fun _ => parseScanParams p; setStatus hOk)
          (fun _ _ => True) (fun m' => Told henv .wifiScanParams reply m'.store)
          (fun _ m' => Told henv .wifiScanParams reply m'.store) m :=
        told_checked h (by decide) hPayload hBody
      simp only [parseResp, wp_bind, hMember, wp_deref_obj] at hRest ⊢
      exact hRest
    all_goals exact told_checked h (by decide) hPayload (wp_parseRespBody_after h.outList)

end Status

/-- The status that the caller gets for the response to a request. -/
def replyStatus (henv : HostEnv) (rpc : ReqRpc) (reply : Rpc) : Int :=
  match lookupReqHandler rpc with
  | none => hErrNotSup
  | some c => verdict henv c reply.payload

theorem told_rpcParseRsp {henv : HostEnv} {env : CpEnv} {rpc : ReqRpc} {reply : Rpc}
    (h : Replies env rpc reply) (hRead : ∀ c, lookupReqHandler rpc = some c → ¬Misread env rpc c) :
    wp (rpcParseRsp henv reply) (fun _ _ => True) (fun _ => False)
      (fun _ m => m.store.uid = rpc.uid ∧
        rpcRspCallback (some m.store) = replyStatus henv rpc reply) { store := {} } := by
  unfold rpcParseRsp parseRspBody replyStatus
  rw [wp_bind, wp_attempt]
  simp only [wp_bind, wp_pure, wp_modify]
  cases hCall : lookupReqHandler rpc with
  | none =>
    obtain ⟨hId, -⟩ := h.unknown hCall
    rw [if_pos hId, hId]
    exact ⟨h.uid, rfl⟩
  | some c =>
    obtain ⟨hId, hSilent, hAnswer⟩ := h.known c hCall
    obtain ⟨hLow, hHigh⟩ := respId_bounds c
    have hNe : c.respId ≠ respBase := by omega
    have hMod : c.respId % 65536 = c.respId := by
      unfold respMax at hHigh
      omega
    have hFresh : Fresh reply c { store :=
        { msgType := typeResp, msgId := reply.msgId % 65536, uid := reply.uid } } :=
      ⟨by rw [hId, hMod]; rfl, rfl, rfl⟩
    have hPayload : reply.payload = none ∨
        ∃ p, reply.payload = some (.resp c, p) ∧ c.readsOther = false := by
      by_cases hAnswered : Answered env rpc c
      · obtain ⟨p, hp, -⟩ := hAnswer hAnswered
        refine .inr ⟨p, hp, ?_⟩
        simpa [hAnswered] using fun hOther => hRead c hCall (.inl ⟨hOther, hAnswered⟩)
      · exact .inl (hSilent hAnswered)
    rw [if_neg (by rw [hId]; exact hNe), hId, respCall_respId]
    rw [hId] at hFresh
    exact wp_mono (fun _ _ h => h) (fun _ h' => ⟨h'.1.trans h.uid, h'.2⟩)
      (fun _ _ h' => ⟨h'.1.trans h.uid, h'.2⟩) (told_parseResp hFresh hPayload)

theorem status_of_replies {henv : HostEnv} {env : CpEnv} {rpc : ReqRpc} {reply : Rpc}
    (h : Replies env rpc reply) (hRead : ∀ c, lookupReqHandler rpc = some c → ¬Misread env rpc c) :
    wp (rpcParseRsp henv reply) (fun _ _ => False) (fun _ => False)
      (fun _ m => m.store.uid = rpc.uid ∧
        rpcRspCallback (some m.store) = replyStatus henv rpc reply) { store := {} } := by
  have hSafe : InBounds (rpcParseRsp henv reply) { store := {} } :=
    (inBounds_of_replies h good_new).mpr hRead
  exact wp_mono (fun _ _ h => h.1) (fun _ h => h.2) (fun _ _ h => h.2)
    (wp_and hSafe (told_rpcParseRsp h hRead))

/-- A call of the driver does what its answer says. -/
theorem verdict_forwarded {henv : HostEnv} {env : CpEnv} {c : Call} {p : Msg}
    (hForwarded : c.forwarded = true) (hp : p.num .resp = env.ret) (b : Member) :
    verdict henv c (some (b, p)) = env.ret := by
  have hDhcp : c ≠ .getDhcpDnsStatus := by
    rintro rfl
    cases hForwarded
  have hList : c ≠ .wifiScanGetApRecords := by
    rintro rfl
    cases hForwarded
  unfold verdict
  by_cases hRet : env.ret = 0
  · simp [hDhcp, hList, hp, hRet, hOk]
  · simp [hDhcp, hp, hRet]

/-- The callback of a call that the co-processor hands to its driver. -/
theorem status_of_replies_forwarded {henv : HostEnv} {env : CpEnv} {rpc : ReqRpc} {reply : Rpc}
    {c : Call} (h : Replies env rpc reply) (hCall : lookupReqHandler rpc = some c)
    (hForwarded : c.forwarded = true) (hOwn : c.readsOther = false) :
    wp (rpcParseRsp henv reply) (fun _ _ => False) (fun _ => False)
      (fun _ a => (Answered env rpc c → rpcRspCallback (some a.store) = env.ret) ∧
        (¬Answered env rpc c → rpcRspCallback (some a.store) = hOk)) { store := {} } := by
  obtain ⟨-, hSilent, hAnswer⟩ := h.known c hCall
  have hRead : ∀ d, lookupReqHandler rpc = some d → ¬Misread env rpc d := by
    intro d hd
    obtain rfl : c = d := by simpa [hCall] using hd
    rintro (⟨hOther, -⟩ | ⟨rfl, -⟩)
    · simp [hOwn] at hOther
    · cases hForwarded
  refine wp_mono (fun _ _ h => h) (fun _ h => h) (fun _ a ha => ?_) (status_of_replies h hRead)
  rw [ha.2]
  unfold replyStatus
  rw [hCall]
  refine ⟨fun hAnswered => ?_, fun hNot => ?_⟩
  · obtain ⟨p, hPayload, hp⟩ := hAnswer hAnswered
    rw [hPayload]
    exact verdict_forwarded hForwarded (hp.2 hForwarded) _
  · rw [hSilent hNot]
    have hDhcp : c ≠ .getDhcpDnsStatus := by
      rintro rfl
      cases hForwarded
    simp [verdict, hDhcp]

/-! ## Main results -/

section Main

variable {henv : HostEnv} {env : CpEnv} {rpc : ReqRpc} {reply : Rpc} {m : Mem (Option Msg)}

/-- The host parses a response of the co-processor without harm, however much memory either of them
has, exactly if it is not one that it misreads. -/
theorem inBounds_reply (hInside : InBounds (dataTransferHandler env rpc) { store := none })
    (hRun : dataTransferHandler env rpc { store := none } = .done (some reply) m) :
    InBounds (rpcParseRsp henv reply) { store := {} } ↔
      ∀ c, lookupReqHandler rpc = some c → ¬Misread env rpc c :=
  inBounds_of_replies (replies_dataTransferHandler rfl good_new hInside hRun) good_new

/-- The driver accepts a band. -/
def setBand : ReqRpc where
  msgId := Call.wifiSetBand.reqId
  uid := 7
  payload := some (.req .wifiSetBand, { num := fun _ => 1 })

/-- The host reads its response as the one of a country code. -/
theorem not_inBounds_setBand : ∃ reply m,
    dataTransferHandler board setBand { store := none } = .done (some reply) m ∧
      ¬InBounds (rpcParseRsp {} reply) { store := {} } := by
  obtain ⟨reply, m, hRun⟩ : ∃ reply m,
      dataTransferHandler board setBand { store := none } = .done (some reply) m := ⟨_, _, rfl⟩
  have hInside : InBounds (dataTransferHandler board setBand) { store := none } := by decide
  refine ⟨reply, m, hRun, fun h => ?_⟩
  have hRead := (inBounds_reply hInside hRun).mp h .wifiSetBand (by decide)
  exact hRead (.inl ⟨rfl, rfl, fun _ hNone => by cases hNone⟩)

/-- Unless the host misreads the response, the caller gets the error that it holds, and success if
there is no payload because the co-processor had no memory for one or found none in the request. -/
theorem status_reply (hInside : InBounds (dataTransferHandler env rpc) { store := none })
    (hRun : dataTransferHandler env rpc { store := none } = .done (some reply) m)
    (hRead : ∀ c, lookupReqHandler rpc = some c → ¬Misread env rpc c) :
    wp (rpcParseRsp henv reply) (fun _ _ => False) (fun _ => False)
      (fun _ a => a.store.uid = rpc.uid ∧
        rpcRspCallback (some a.store) = replyStatus henv rpc reply) { store := {} } ∧
      ∀ c, lookupReqHandler rpc = some c → (reply.payload = none ↔ ¬Answered env rpc c) := by
  have hReplies := replies_dataTransferHandler rfl good_new hInside hRun
  refine ⟨status_of_replies hReplies hRead, fun c hCall => ⟨fun hNone hAnswered => ?_,
    (hReplies.known c hCall).2.1⟩⟩
  obtain ⟨p, hp, -⟩ := (hReplies.known c hCall).2.2 hAnswered
  simp [hNone] at hp

/-- A call that needs no payload. -/
def connect : ReqRpc where
  msgId := Call.wifiConnect.reqId
  uid := 8
  payload := none

/-- A co-processor without memory for the payload of a response. -/
def shortOfMemory : CpEnv := { board with calloc := fun place => place matches .rpc | .out }

/-- The caller gets success. -/
theorem connect_shortOfMemory : ∃ reply m,
    dataTransferHandler shortOfMemory connect { store := none } = .done (some reply) m ∧
      wp (rpcParseRsp {} reply) (fun _ _ => False) (fun _ => False)
        (fun _ a => rpcRspCallback (some a.store) = hOk) { store := {} } := by
  obtain ⟨reply, m, hRun⟩ : ∃ reply m,
      dataTransferHandler shortOfMemory connect { store := none } = .done (some reply) m :=
    ⟨_, _, rfl⟩
  have hInside : InBounds (dataTransferHandler shortOfMemory connect) { store := none } := by decide
  have hConnect : lookupReqHandler connect = some .wifiConnect := by decide
  have hRead : ∀ c, lookupReqHandler connect = some c → ¬Misread shortOfMemory connect c := by
    intro c hCall
    obtain rfl : Call.wifiConnect = c := by simpa [hConnect] using hCall
    rintro (⟨hOther, -⟩ | ⟨hScan, -⟩)
    · cases hOther
    · cases hScan
  obtain ⟨hStatus, hNone⟩ := status_reply hInside hRun hRead
  have hPayload : reply.payload = none :=
    (hNone .wifiConnect hConnect).mpr fun hAnswered => by cases hAnswered.1
  refine ⟨reply, m, hRun, wp_mono (fun _ _ h => h) (fun _ h => h) (fun _ a h => ?_) hStatus⟩
  rw [h.2, replyStatus, hConnect, hPayload]
  rfl

/-- For a call that the co-processor hands to its driver the caller gets what that returned, and
success if the co-processor did not answer. -/
theorem status_forwarded {c : Call} (hCall : lookupReqHandler rpc = some c)
    (hForwarded : c.forwarded = true) (hOwn : c.readsOther = false)
    (hInside : InBounds (dataTransferHandler env rpc) { store := none })
    (hRun : dataTransferHandler env rpc { store := none } = .done (some reply) m) :
    wp (rpcParseRsp henv reply) (fun _ _ => False) (fun _ => False)
      (fun _ a => (Answered env rpc c → rpcRspCallback (some a.store) = env.ret) ∧
        (¬Answered env rpc c → rpcRspCallback (some a.store) = hOk)) { store := {} } := by
  have hReplies := replies_dataTransferHandler rfl good_new hInside hRun
  exact status_of_replies_forwarded hReplies hCall hForwarded hOwn

/-- A call of the driver. -/
def start : ReqRpc where
  msgId := Call.wifiStart.reqId
  uid := 9
  payload := none

/-- A co-processor whose driver is not initialised. -/
def notInitialised : CpEnv := { board with ret := espErrWifiNotInit }

/-- The caller gets the error of the driver. -/
theorem start_notInitialised : ∃ reply m,
    dataTransferHandler notInitialised start { store := none } = .done (some reply) m ∧
      wp (rpcParseRsp {} reply) (fun _ _ => False) (fun _ => False)
        (fun _ a => rpcRspCallback (some a.store) = espErrWifiNotInit) { store := {} } := by
  obtain ⟨reply, m, hRun⟩ : ∃ reply m,
      dataTransferHandler notInitialised start { store := none } = .done (some reply) m :=
    ⟨_, _, rfl⟩
  have hInside : InBounds (dataTransferHandler notInitialised start) { store := none } := by decide
  have hStart : lookupReqHandler start = some .wifiStart := by decide
  have hAnswered : Answered notInitialised start .wifiStart :=
    ⟨rfl, fun hTested => by cases hTested⟩
  exact ⟨reply, m, hRun, wp_mono (fun _ _ h => h) (fun _ h => h) (fun _ _ h => h.1 hAnswered)
    (status_forwarded hStart rfl rfl hInside hRun)⟩

end Main

end EspHosted.Codec
