import EspHosted.Codec.ParseEvt
import EspHosted.Codec.RspAccess

/-!
# What receiving a message reads and copies

For every event the condition under which its branch of `rpc_parse_evt` ends without a fault, and
the condition under which its copies stay inside; then the same for every message that
`process_rpc_rx_msg` is given.

* `safe_processRpcRxMsg`: no fault exactly when `RxReads`.
* `inBounds_processRpcRxMsg`: moreover every copy stays inside, and the URI that is searched for
  its end has one, exactly when also `RxFits`.
-/

namespace EspHosted.Codec

open Checked Checked.Prog

/-! ## Conditions -/

/-- What the branch for an event needs to find behind its member. -/
def EvtBodyReads (e : Event) (p : Msg) : Prop :=
  match e with
  | .staItwtSetup => (p.sub .config).isSome
  | .staScanDone => (p.sub .scanDone).isSome
  | .staDisconnected => p.sub .staDisconnected = none
  | _ => True

/-- What must fit when the branch for an event copies, and when its URI is searched for its end. -/
def EvtBodyFits (env : HostEnv) (e : Event) (p : Msg) : Prop :=
  match e with
  | .apStaConnected | .apStaDisconnected => p.num .resp = 0 → (p.bytes .mac).length ≤ 6
  | .staConnected => p.num .resp = 0 → ∀ q, p.sub .staConnected = some q →
      q.bytes .ssid ≠ [] → (q.bytes .ssid).length ≤ 32 ∧ (q.bytes .bssid).length ≤ 6
  | .dhcpDnsStatus => (p.bytes .dhcpIp).length ≤ 64 ∧ (p.bytes .dhcpNm).length ≤ 64 ∧
      (p.bytes .dhcpGw).length ≤ 64 ∧ (p.bytes .dnsIp).length ≤ 64
  | .suppDppUriReady => env.suppQueue = true → (p.bytes .qrcode).length = env.uriLenMax →
      0 ∈ p.bytes .qrcode
  | _ => True

/-- What the branch for an event needs to find. Two branches do not test their own member, and
four read another one before it. -/
def EvtReads (rpc : Rpc) (e : Event) : Prop :=
  match e with
  | .suppDppUriReady | .suppDppFail => ∃ p, rpc.payload = some (.event e, p)
  | .suppDppCfgRecvd | .wifiDppUriReady | .wifiDppCfgRecvd | .wifiDppFail => False
  | e => Guarded rpc (.event e) (EvtBodyReads e)

def EvtFits (env : HostEnv) (rpc : Rpc) (e : Event) : Prop :=
  ∀ p, rpc.payload = some (.event e, p) → EvtBodyFits env e p

/-- The branches that test their member. -/
def Event.Tested (e : Event) : Prop :=
  match e with
  | .suppDppUriReady | .suppDppCfgRecvd | .suppDppFail => False
  | .wifiDppUriReady | .wifiDppCfgRecvd | .wifiDppFail => False
  | _ => True

/-! ## Branches that test their member -/

section Tested

variable {env : HostEnv} {rpc : Rpc} {p : Msg} {m : Mem CtrlCmd}

@[simp] theorem wp_memcpyToU {F : Fault → Mem CtrlCmd → Prop} {E : Mem CtrlCmd → Prop}
    {Q : Unit → Mem CtrlCmd → Prop} (f : Field) (room : Nat) (src : List UInt8) :
    wp (memcpyToU f room src) F E Q = fun m =>
      Q () ((m.note [.copy room src.length src.length]).put
        { m.store with u := m.store.u.setBuf f ((src.take src.length).take room) }) := rfl

theorem wp_takeEach_words {F : Fault → Mem CtrlCmd → Prop} {E : Mem CtrlCmd → Prop}
    {Q : List Int → Mem CtrlCmd → Prop} {n : Nat} {xs : List Int} (hn : n ≤ xs.length) :
    wp (takeEach pure n xs) F E Q m ↔ Q (xs.take n) m := by
  have hRun := takeEach_eq (σ := CtrlCmd) (f := pure) (v := id) (a := fun _ : Int => [])
    (fun x m => by rw [Mem.note_nil]; rfl) n xs m
  rw [if_pos hn, List.map_id, List.flatMap_eq_nil_iff.mpr (fun _ _ => rfl), Mem.note_nil] at hRun
  exact wp_of_eq hRun

/-- The times of a suspend event are cut to the eight that there is room for. -/
theorem wp_parseItwtSuspend {F : Fault → Mem CtrlCmd → Prop} {E : Mem CtrlCmd → Prop}
    {Q : Unit → Mem CtrlCmd → Prop} (hQ : ∀ a s, a.Ok → Q () ((m.note [a]).put s)) :
    wp (parseItwtSuspend p) F E Q m := by
  unfold parseItwtSuspend
  simp only [wp_bind, wp_setStatus, wp_copyNums, wp_note, wp_modify]
  rw [wp_takeEach_words (Nat.min_le_right _ _)]
  apply hQ
  simp only [Access.Ok, List.length_take]
  omega

theorem wp_parseMemEvent {E : Mem CtrlCmd → Prop} {Q : Unit → Mem CtrlCmd → Prop} (hE : E m)
    (hQ : ∀ s, Q () (m.put s)) : wp (parseMemEvent p) (fun _ _ => False) E Q m := by
  unfold parseMemEvent
  rw [wp_bind]
  apply wp_needMemInfo hE
  intro hInfo
  obtain ⟨words, hWords⟩ := memInfo_eq hInfo
  simp only [wp_bind, wp_copyNums, wp_modify, wp_of_eq (hWords _)]
  exact hQ _

theorem safe_parseEvtBody {e : Event} (he : e.Tested) (hp : rpc.payload = some (.event e, p)) :
    Safe (parseEvtBody env rpc e p) m ↔ EvtBodyReads e p := by
  cases e
  case staItwtSuspend => exact iff_of_true (wp_parseItwtSuspend fun _ _ _ => trivial) trivial
  case memMonitor => exact iff_of_true (wp_parseMemEvent trivial fun _ => trivial) trivial
  case staItwtSetup =>
    unfold parseEvtBody parseItwtSetup EvtBodyReads Safe
    cases p.sub .config <;> simp
  case staScanDone =>
    unfold parseEvtBody EvtBodyReads Safe
    cases p.sub .scanDone <;> simp
  case staConnected =>
    unfold parseEvtBody parseStaEvent copyNonNull EvtBodyReads Safe
    cases p.sub .staConnected <;> simp
  case staDisconnected =>
    unfold parseEvtBody EvtBodyReads Safe Rpc.member
    rw [hp]
    cases p.sub .staDisconnected <;> simp
  case dhcpDnsStatus => simp [parseEvtBody, parseDhcpDns, EvtBodyReads, Safe]
  case apStaConnected => simp [parseEvtBody, parseApSta, copyNonNull, EvtBodyReads, Safe]
  case apStaDisconnected => simp [parseEvtBody, parseApSta, copyNonNull, EvtBodyReads, Safe]
  all_goals first
    | exact he.elim
    | simp [parseEvtBody, EvtBodyReads, Safe]

theorem inBounds_parseApSta (fs : List Field) (hGood : m.Good) :
    InBounds (parseApSta p fs) m ↔ (p.num .resp = 0 → (p.bytes .mac).length ≤ 6) := by
  unfold parseApSta copyNonNull InBounds
  by_cases hResp : p.num .resp = 0
  · by_cases hMac : p.bytes .mac = []
    · simp [hResp, hMac, hGood]
    · simp [hResp, hMac, hGood, Access.Ok]
  · simp [hResp, hGood]

theorem inBounds_parseStaEvent {q : Msg} {resp : Int} (fs : List Field) (hGood : m.Good) :
    InBounds (parseStaEvent q resp fs) m ↔ (resp = 0 → q.bytes .ssid ≠ [] →
      (q.bytes .ssid).length ≤ 32 ∧ (q.bytes .bssid).length ≤ 6) := by
  unfold parseStaEvent copyNonNull InBounds
  by_cases hResp : resp = 0
  · by_cases hSsid : q.bytes .ssid = []
    · simp [hResp, hSsid, hGood]
    · by_cases hBssid : q.bytes .bssid = []
      · simp [hResp, hSsid, hBssid, hGood, Access.Ok]
      · simp [hResp, hSsid, hBssid, hGood, Access.Ok]
  · simp [hResp, hGood]

theorem inBounds_parseEvtBody {e : Event} (he : e.Tested) (hp : rpc.payload = some (.event e, p))
    (hGood : m.Good) :
    InBounds (parseEvtBody env rpc e p) m ↔ EvtBodyReads e p ∧ EvtBodyFits env e p := by
  cases e
  case staItwtSuspend =>
    refine iff_of_true (wp_parseItwtSuspend fun a s hOk => ?_) ⟨trivial, trivial⟩
    simpa [hGood] using hOk
  case memMonitor => exact iff_of_true (wp_parseMemEvent hGood fun _ => hGood) ⟨trivial, trivial⟩
  case staItwtSetup =>
    unfold parseEvtBody parseItwtSetup EvtBodyReads EvtBodyFits InBounds
    cases p.sub .config <;> simp [hGood]
  case staScanDone =>
    unfold parseEvtBody EvtBodyReads EvtBodyFits InBounds
    cases p.sub .scanDone <;> simp [hGood]
  case staConnected =>
    unfold parseEvtBody EvtBodyReads EvtBodyFits
    cases p.sub .staConnected with
    | none => exact iff_of_true hGood ⟨trivial, by simp⟩
    | some q =>
      simp only [true_and, Option.some.injEq, forall_eq']
      exact inBounds_parseStaEvent _ hGood
  case staDisconnected =>
    unfold parseEvtBody EvtBodyReads EvtBodyFits InBounds Rpc.member
    rw [hp]
    cases p.sub .staDisconnected <;> simp [hGood]
  case dhcpDnsStatus =>
    simp [parseEvtBody, parseDhcpDns, EvtBodyReads, EvtBodyFits, InBounds, hGood, Access.Ok,
      and_assoc]
  case apStaConnected => exact (inBounds_parseApSta _ hGood).trans (iff_of_eq (true_and _)).symm
  case apStaDisconnected => exact (inBounds_parseApSta _ hGood).trans (iff_of_eq (true_and _)).symm
  all_goals first
    | exact he.elim
    | simp [parseEvtBody, EvtBodyReads, EvtBodyFits, InBounds, hGood]

end Tested

/-! ## Branches that do not -/

section Untested

variable {E : Mem CtrlCmd → Prop} {Q : Unit → Mem CtrlCmd → Prop} {m : Mem CtrlCmd}

/-- A branch that reads its own member alone needs it to be there. -/
theorem wp_untestedEvt_own (env : HostEnv) (rpc : Rpc) (e : Event) {P : Msg → Prop}
    (h : ∀ p s, s.u = m.store.u →
      (wp (parseEvtBody env rpc e p) (fun _ _ => False) E Q (m.put s) ↔ P p)) :
    wp (untestedEvt env rpc e e) (fun _ _ => False) E Q m ↔
      (∃ p, rpc.payload = some (.event e, p)) ∧ ∀ p, rpc.payload = some (.event e, p) → P p := by
  unfold untestedEvt Rpc.member
  cases hp : rpc.payload with
  | none => simp
  | some q =>
    obtain ⟨b, p⟩ := q
    by_cases hb : b = .event e
    · subst hb
      simp only [wp_bind, wp_deref_obj, wp_setStatus, if_true]
      rw [h p { m.store with respEventStatus := p.num .resp } rfl]
      simp
    · have hb' : Member.event e ≠ b := fun h => hb h.symm
      simp [hb, hb']

/-- A branch that reads two members never finds both. -/
theorem wp_untestedEvt_other (env : HostEnv) (rpc : Rpc) {other e : Event} (hNe : other ≠ e) :
    ¬wp (untestedEvt env rpc other e) (fun _ _ => False) E Q m := by
  unfold untestedEvt Rpc.member
  cases rpc.payload with
  | none => simp
  | some q =>
    obtain ⟨b, p⟩ := q
    by_cases hb : .event other = b
    · subst hb
      simp [hNe.symm]
    · simp [hb]

end Untested

/-! ## The whole switch -/

section Switch

variable {E : Mem CtrlCmd → Prop} {Q : Unit → Mem CtrlCmd → Prop} {m : Mem CtrlCmd}

/-- Every branch, for a postcondition that its last part meets exactly when `P`. -/
theorem wp_parseEvt {P : Event → Msg → Prop} (env : HostEnv) (rpc : Rpc) (e : Event) (hE : E m)
    (hQ : ∀ s, Q () (m.put s)) (hFail : ∀ p, P .suppDppFail p)
    (h : ∀ e p, e.Tested → rpc.payload = some (.event e, p) →
      (wp (parseEvtBody env rpc e p) (fun _ _ => False) E Q m ↔ EvtBodyReads e p ∧ P e p))
    (hUri : ∀ p s, wp (parseUri env p) (fun _ _ => False) E Q (m.put s) ↔ P .suppDppUriReady p) :
    wp (parseEvt env rpc e) (fun _ _ => False) E Q m ↔
      EvtReads rpc e ∧ ∀ p, rpc.payload = some (.event e, p) → P e p := by
  have hTested (he : e.Tested) : wp (nonNull (rpc.member (.event e)) >>= parseEvtBody env rpc e)
      (fun _ _ => False) E Q m ↔ Guarded rpc (.event e) (EvtBodyReads e) ∧
        ∀ p, rpc.payload = some (.event e, p) → P e p := by
    rw [← guarded_and, wp_bind, wp_member]
    simp only [hE, implies_true, true_and]
    refine forall₃_congr fun b p hPayload => ?_
    by_cases hb : b = .event e
    · rw [if_pos hb, h e p he (by rw [hPayload, hb])]
      simp [hb]
    · simp [hb]
  cases e
  case suppDppUriReady => exact wp_untestedEvt_own env rpc .suppDppUriReady fun p s _ => hUri p s
  case suppDppFail =>
    refine (wp_untestedEvt_own env rpc .suppDppFail (P := fun _ => True) ?_).trans ?_
    · exact fun p s _ => iff_of_true (hQ _) trivial
    · exact and_congr_right fun _ => iff_of_true (fun _ _ => trivial) fun p _ => hFail p
  case suppDppCfgRecvd =>
    exact iff_of_false (wp_untestedEvt_other env rpc (by decide)) fun h => h.1
  case wifiDppUriReady =>
    exact iff_of_false (wp_untestedEvt_other env rpc (by decide)) fun h => h.1
  case wifiDppCfgRecvd =>
    exact iff_of_false (wp_untestedEvt_other env rpc (by decide)) fun h => h.1
  case wifiDppFail =>
    exact iff_of_false (wp_untestedEvt_other env rpc (by decide)) fun h => h.1
  all_goals exact hTested trivial

end Switch

/-! ## The callback -/

theorem wp_parseUri {env : HostEnv} {p : Msg} {m : Mem CtrlCmd} {E : Mem CtrlCmd → Prop}
    {Q : Unit → Mem CtrlCmd → Prop} :
    wp (parseUri env p) (fun _ _ => False) E Q m ↔
      if (p.bytes .qrcode).length ≤ env.uriLenMax then
        Q () ((m.note [.copy env.uriLenMax (p.bytes .qrcode).length (p.bytes .qrcode).length]).put
          { m.store with
            u := (m.store.u.setBuf .uri (p.bytes .qrcode)).setNum .uriDataLen
              (p.bytes .qrcode).length })
      else Q () (m.put { m.store with u := m.store.u.setNum .uriDataLen 0 }) := by
  unfold parseUri
  simp only [wp_ite, wp_bind, wp_memcpy, wp_setU]
  split
  · rename_i hLen
    rw [List.take_length, List.take_of_length_le hLen]
    rfl
  · rfl

/-- The end of the URI is found inside its array, and the copy up to it stays inside. -/
theorem inBounds_rpcEventCallback {env : HostEnv} {id : Nat} {m : Mem CtrlCmd} (hGood : m.Good)
    (hLen : (m.store.u.buf .uri).length ≤ env.uriLenMax) :
    InBounds (rpcEventCallback env id) m ↔ (id = Event.suppDppUriReady.id → env.suppQueue = true →
      (m.store.u.buf .uri).length = env.uriLenMax → 0 ∈ m.store.u.buf .uri) := by
  unfold rpcEventCallback InBounds
  by_cases hQueue : id = Event.suppDppUriReady.id ∧ env.suppQueue = true
  · have hOk : (Access.strlen env.uriLenMax (m.store.u.buf .uri)).Ok ↔
        ((m.store.u.buf .uri).length = env.uriLenMax → 0 ∈ m.store.u.buf .uri) := by
      unfold Access.Ok
      constructor
      · rintro (h | h) hEq
        · omega
        · exact h
      · intro h
        by_cases hEq : (m.store.u.buf .uri).length = env.uriLenMax
        · exact Or.inr (h hEq)
        · exact Or.inl (by omega)
    simp only [hQueue, wp_ite, wp_bind, wp_get, wp_note, wp_pure, and_self, if_true, true_imp_iff,
      ← hOk]
    constructor
    · intro h
      split at h
      · simp only [Mem.good_note, List.mem_singleton, forall_eq] at h
        exact h.1.2
      · simp only [Mem.good_note, List.mem_singleton, forall_eq] at h
        exact h.2
    · intro h
      have hLt := strlen_lt hLen h
      split
      · have hCopy : (Access.copy (strlen (m.store.u.buf .uri) + 1) env.uriLenMax
            (strlen (m.store.u.buf .uri) + 1)).Ok := ⟨Nat.le_refl _, hLt⟩
        simp only [Mem.good_note, List.mem_singleton, forall_eq, hGood, h, hCopy, true_and]
      · simp [hGood, h]
  · have hNot : ∀ h : id = Event.suppDppUriReady.id, ¬env.suppQueue = true :=
      fun h hs => hQueue ⟨h, hs⟩
    rw [if_neg hQueue]
    exact iff_of_true hGood fun h hs => absurd hs (hNot h)

theorem inBounds_parseUri {env : HostEnv} {p : Msg} {m : Mem CtrlCmd} (hGood : m.Good) :
    InBounds (parseUri env p) m := by
  unfold InBounds
  rw [wp_parseUri]
  split
  · simp only [Mem.good_put, Mem.good_note, List.mem_singleton, forall_eq, hGood, true_and,
      Access.Ok]
    omega
  · exact hGood

/-- Every branch but the one whose URI is searched for its end later. -/
theorem inBounds_parseEvt {env : HostEnv} {rpc : Rpc} {e : Event} {m : Mem CtrlCmd}
    (he : e ≠ .suppDppUriReady) (hGood : m.Good) :
    InBounds (parseEvt env rpc e) m ↔ EvtReads rpc e ∧ EvtFits env rpc e := by
  have hRun := wp_parseEvt (E := Mem.Good) (Q := fun _ => Mem.Good) (m := m)
    (P := fun e p => e = .suppDppUriReady ∨ EvtBodyFits env e p) env rpc e hGood (fun _ => hGood)
    (fun _ => Or.inr trivial)
    (fun e p hTested hp => (inBounds_parseEvtBody hTested hp hGood).trans (and_congr_right fun _ =>
      ⟨Or.inr, fun h => h.resolve_left fun hEq => by rw [hEq] at hTested; exact hTested⟩))
    (fun p s => iff_of_true (inBounds_parseUri hGood) (Or.inl rfl))
  refine hRun.trans (and_congr_right fun _ => ?_)
  exact forall₂_congr fun p _ => ⟨fun h => h.resolve_left he, Or.inr⟩

theorem safe_parseEvt {env : HostEnv} {rpc : Rpc} {e : Event} {m : Mem CtrlCmd} :
    Safe (parseEvt env rpc e) m ↔ EvtReads rpc e := by
  have hRun := wp_parseEvt (E := fun _ => True) (Q := fun _ _ => True) (m := m)
    (P := fun _ _ => True) env rpc e trivial (fun _ => trivial) (fun _ => trivial)
    (fun e p hTested hp => (safe_parseEvtBody hTested hp).trans (iff_of_eq (and_true _)).symm)
    (fun p s => iff_of_true (by rw [wp_parseUri]; split <;> trivial) trivial)
  exact hRun.trans (and_iff_left fun _ _ => trivial)

theorem eventOf_id {id : Nat} {e : Event} (h : eventOf id = some e) : id = e.id := by
  have hFound := List.find?_some h
  exact (of_decide_eq_true hFound).symm

theorem Event.id_injective {e : Event} (h : e.id = Event.suppDppUriReady.id) :
    e = .suppDppUriReady := by
  cases e <;> first | rfl | cases h

theorem inBounds_uriCallback {env : HostEnv} {m : Mem CtrlCmd} {uri : List UInt8}
    (hGood : m.Good) (hUri : m.store.u.buf .uri = uri) (hLen : uri.length ≤ env.uriLenMax) :
    InBounds (rpcEventCallback env Event.suppDppUriReady.id) m ↔
      (env.suppQueue = true → uri.length = env.uriLenMax → 0 ∈ uri) := by
  subst hUri
  rw [inBounds_rpcEventCallback hGood hLen]
  exact forall_prop_of_true rfl

/-- The branch whose URI is copied up to its end for another thread. -/
theorem inBounds_uriReady {env : HostEnv} {rpc : Rpc} {m : Mem CtrlCmd} (hGood : m.Good)
    (hNew : m.store.u.buf .uri = []) :
    wp (parseEvt env rpc .suppDppUriReady) (fun _ _ => False) Mem.Good
      (fun _ => wp (rpcEventCallback env Event.suppDppUriReady.id) (fun _ _ => False) Mem.Good
        fun _ => Mem.Good) m ↔
      EvtReads rpc .suppDppUriReady ∧ EvtFits env rpc .suppDppUriReady := by
  refine wp_untestedEvt_own env rpc .suppDppUriReady fun p s hs => ?_
  have hBody : parseEvtBody env rpc .suppDppUriReady p = parseUri env p := rfl
  rw [hBody, wp_parseUri]
  unfold EvtBodyFits
  split
  · rename_i hLen
    have hUri : ((s.u.setBuf .uri (p.bytes .qrcode)).setNum .uriDataLen
        (p.bytes .qrcode).length).buf .uri = p.bytes .qrcode := by
      simp [Rec.setNum, Rec.setBuf]
    have hNote : ((m.put s).note [.copy env.uriLenMax (p.bytes .qrcode).length
        (p.bytes .qrcode).length]).Good := by
      simp only [Mem.good_note, Mem.good_put, hGood, true_and, List.mem_singleton, forall_eq,
        Access.Ok]
      omega
    exact inBounds_uriCallback hNote hUri hLen
  · rename_i hLen
    have hUri : (s.u.setNum .uriDataLen 0).buf .uri = [] := by
      rw [← hNew, ← hs]
      rfl
    have hPos : 0 < env.uriLenMax := Nat.succ_pos _
    refine Iff.trans (inBounds_uriCallback hGood hUri (Nat.zero_le _)) (iff_of_true ?_ ?_)
    · intro _ hZero
      simp only [List.length_nil] at hZero
      omega
    · intro _ hEq
      omega

/-- The end of `rpcParseEvt` and what follows it, for postconditions that do not see the status. -/
theorem wp_rpcParseEvt {env : HostEnv} {rpc : Rpc} {m : Mem CtrlCmd} {E : Mem CtrlCmd → Prop}
    {k : Prog CtrlCmd Unit} (hE : E m) (hPut : ∀ m s, E (Mem.put m s) ↔ E m) :
    wp (do let r ← rpcParseEvt env rpc; if r = hOk then k else pure ()) (fun _ _ => False) E
        (fun _ => E) m ↔
      ∀ e, eventOf rpc.msgId = some e → wp (parseEvt env rpc e) (fun _ _ => False) E
        (fun _ => wp k (fun _ _ => False) E fun _ => E)
        (m.put { m.store with
          msgType := typeEvent, msgId := rpc.msgId % 65536, respEventStatus := hOk }) := by
  have hFail : hFail ≠ hOk := by decide
  unfold rpcParseEvt
  simp only [wp_bind, wp_modify, wp_attempt]
  cases hEvent : eventOf rpc.msgId with
  | none => simp [hE, hPut, hFail]
  | some e =>
    simp only [Option.some.injEq, forall_eq']
    refine wp_congr (fun m' => ?_) (fun _ m' => ?_)
    · simp [hFail, hPut]
    · simp

/-! ## Every message -/

/-- What `process_rpc_rx_msg` needs to find in a message. -/
def RxReads (env : HostEnv) (rpc : Rpc) : Prop :=
  if rpc.msgType = typeEvent then
    isEventCallbackRegistered env rpc.msgId = true → env.callocCmd = true →
      ∀ e, eventOf rpc.msgId = some e → EvtReads rpc e
  else rpc.msgType = typeResp → env.callocCmd = true → RspReads env rpc

/-- What must fit when it copies. -/
def RxFits (env : HostEnv) (rpc : Rpc) : Prop :=
  if rpc.msgType = typeEvent then
    isEventCallbackRegistered env rpc.msgId = true → env.callocCmd = true →
      ∀ e, eventOf rpc.msgId = some e → EvtFits env rpc e
  else rpc.msgType = typeResp → env.callocCmd = true → RspFits env rpc

theorem safe_rpcEventCallback (env : HostEnv) (id : Nat) (m : Mem CtrlCmd) :
    Safe (rpcEventCallback env id) m := by
  unfold rpcEventCallback Safe
  simp only [wp_ite, wp_bind, wp_get, wp_note, wp_pure]
  split
  · split <;> trivial
  · trivial

/-- `process_rpc_rx_msg` ends without a fault exactly when what it reads is there. -/
theorem safe_processRpcRxMsg (env : HostEnv) (rpc : Rpc) (m : Mem CtrlCmd) :
    Safe (processRpcRxMsg env rpc) m ↔ RxReads env rpc := by
  unfold processRpcRxMsg RxReads Safe
  simp only [wp_ite]
  split
  · by_cases hCall : isEventCallbackRegistered env rpc.msgId = true ∧ env.callocCmd = true
    · rw [if_pos hCall]
      refine (wp_rpcParseEvt trivial fun _ _ => Iff.rfl).trans ?_
      simp only [hCall, forall_const]
      refine forall₂_congr fun e _ => ?_
      refine Iff.trans (wp_congr (fun _ => Iff.rfl) fun _ m' => ?_) safe_parseEvt
      exact iff_of_true (safe_rpcEventCallback env _ m') trivial
    · rw [if_neg hCall]
      exact iff_of_true trivial fun hReg hCalloc => absurd ⟨hReg, hCalloc⟩ hCall
  · split
    · rename_i hResp
      split
      · rename_i hCalloc
        simp only [wp_bind, wp_pure, hResp, hCalloc, forall_const]
        exact safe_rpcParseRsp env rpc m
      · rename_i hCalloc
        exact iff_of_true trivial fun _ h => absurd h hCalloc
    · rename_i hResp
      exact iff_of_true trivial fun h => absurd h hResp

/-- An event that has a callback is parsed, and then handed on. -/
theorem inBounds_receiveEvent {env : HostEnv} {rpc : Rpc} {m : Mem CtrlCmd} (hGood : m.Good)
    (hNew : m.store.u.buf .uri = []) :
    InBounds (do
      let r ← rpcParseEvt env rpc
      if r = hOk then rpcEventCallback env rpc.msgId else pure ()) m ↔
      ∀ e, eventOf rpc.msgId = some e → EvtReads rpc e ∧ EvtFits env rpc e := by
  refine (wp_rpcParseEvt hGood fun _ _ => Iff.rfl).trans ?_
  refine forall_congr' fun e => ?_
  refine forall_congr' fun hEvent => ?_
  have hId := eventOf_id hEvent
  by_cases he : e = .suppDppUriReady
  · subst he
    rw [hId]
    exact inBounds_uriReady hGood hNew
  · refine Iff.trans (wp_congr (fun _ => Iff.rfl) fun _ m' => ?_) (inBounds_parseEvt he hGood)
    have hOther : rpcEventCallback env rpc.msgId = pure () :=
      if_neg fun h => he (Event.id_injective (hId.symm.trans h.1))
    rw [hOther, wp_pure]

/-- Moreover every copy stays inside, and the URI that is searched for its end has one. -/
theorem inBounds_processRpcRxMsg {env : HostEnv} {rpc : Rpc} {m : Mem CtrlCmd} (hGood : m.Good)
    (hNew : m.store.u.buf .uri = []) :
    InBounds (processRpcRxMsg env rpc) m ↔ RxReads env rpc ∧ RxFits env rpc := by
  unfold processRpcRxMsg RxReads RxFits InBounds
  simp only [wp_ite]
  split
  · by_cases hCall : isEventCallbackRegistered env rpc.msgId = true ∧ env.callocCmd = true
    · rw [if_pos hCall]
      refine (inBounds_receiveEvent hGood hNew).trans ?_
      simp only [hCall, forall_const, ← forall_and]
    · rw [if_neg hCall]
      exact iff_of_true hGood ⟨fun hReg hCalloc => absurd ⟨hReg, hCalloc⟩ hCall,
        fun hReg hCalloc => absurd ⟨hReg, hCalloc⟩ hCall⟩
  · split
    · rename_i hResp
      split
      · rename_i hCalloc
        simp only [wp_bind, wp_pure, hResp, hCalloc, forall_const]
        exact inBounds_rpcParseRsp env rpc hGood
      · rename_i hCalloc
        exact iff_of_true hGood ⟨fun _ h => absurd h hCalloc, fun _ h => absurd h hCalloc⟩
    · rename_i hResp
      exact iff_of_true hGood ⟨fun h => absurd h hResp, fun h => absurd h hResp⟩

/-- A URI of one byte that fills its array. -/
def fullUri : Rpc where
  msgType := typeEvent
  msgId := Event.suppDppUriReady.id
  uid := 0
  payload := some (.event .suppDppUriReady, { bytes := fun _ => [0x51] })

/-- The search for its end leaves the array. -/
theorem not_inBounds_fullUri :
    (InBounds (processRpcRxMsg {} fullUri) { store := {} } ↔
      RxReads {} fullUri ∧ RxFits {} fullUri) ∧
      ¬InBounds (processRpcRxMsg {} fullUri) { store := {} } :=
  ⟨inBounds_processRpcRxMsg (by decide) rfl, by decide⟩

end EspHosted.Codec
