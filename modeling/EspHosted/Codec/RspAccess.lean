import EspHosted.Codec.ParseRsp

/-!
# What parsing a response reads and copies

For every branch of `rpc_parse_rsp` the condition under which it ends without a fault, and the
condition under which moreover its copies stay inside.

* `safe_rpcParseRsp`: no fault exactly when `RspReads`. The payload is the member that the
  branch reads, and the messages behind it that the branch does not test are there.
* `inBounds_rpcParseRsp`: moreover every copy stays inside exactly when also `RspFits`.
-/

namespace EspHosted.Codec

open Checked Checked.Prog

/-! ## What the copies do -/

/-- The copy that `RPC_RSP_COPY_BYTES` makes, if any. -/
def copiesOf (room : Nat) (src : List UInt8) : List Access :=
  if src = [] then [] else [.copy room src.length src.length]

theorem copiesOf_ok {room : Nat} {src : List UInt8} :
    (∀ a ∈ copiesOf room src, a.Ok) ↔ src.length ≤ room := by
  unfold copiesOf
  split
  · rename_i h
    simp [h]
  · simp [Access.Ok]

section Rules

variable {σ : Type} {F : Fault → Mem σ → Prop} {E : Mem σ → Prop} {m : Mem σ}

theorem rpcRspCopyBytes_eq (room : Nat) (src : List UInt8) (m : Mem σ) :
    rpcRspCopyBytes room src m = .done (src.take room) (m.note (copiesOf room src)) := by
  unfold rpcRspCopyBytes copiesOf
  split
  · rename_i h
    subst h
    simp only [List.take_nil, Mem.note_nil]
    rfl
  · have hTake : (src.take src.length).take room = src.take room := by rw [List.take_length]
    rw [← hTake]
    rfl

@[simp] theorem wp_rpcRspCopyBytes {Q : List UInt8 → Mem σ → Prop} (room : Nat)
    (src : List UInt8) :
    wp (rpcRspCopyBytes room src) F E Q =
      fun m => Q (src.take room) (m.note (copiesOf room src)) := by
  funext m
  exact propext (wp_of_eq (rpcRspCopyBytes_eq room src m))

/-- The copies of `rpc_copy_ap_record`. -/
def apRecordCopies (r : Msg) : List Access :=
  copiesOf 32 (r.bytes .ssid) ++ copiesOf 6 (r.bytes .bssid) ++
    (r.sub .country).elim [] fun country => copiesOf 3 (country.bytes .cc)

theorem rpcCopyApRecord_eq : ∃ v : Msg → Rec, ∀ (r : Msg) (m : Mem σ),
    rpcCopyApRecord r m = .done (v r) (m.note (apRecordCopies r)) := by
  have h (r : Msg) : ∃ x : Rec, ∀ m : Mem σ,
      rpcCopyApRecord r m = .done x (m.note (apRecordCopies r)) := by
    unfold rpcCopyApRecord apRecordCopies
    cases r.sub .country with
    | none =>
      apply Exists.intro
      intro m
      rw [bind_done (rpcRspCopyBytes_eq _ _ m), bind_done (rpcRspCopyBytes_eq _ _ _)]
      simp only [Mem.note_note, Option.elim_none, List.append_nil]
      rfl
    | some country =>
      apply Exists.intro
      intro m
      rw [bind_done (rpcRspCopyBytes_eq _ _ m), bind_done (rpcRspCopyBytes_eq _ _ _)]
      dsimp only
      rw [bind_done (rpcRspCopyBytes_eq _ _ _)]
      simp only [Mem.note_note, Option.elim_some, List.append_assoc]
      rfl
  exact ⟨fun r => (h r).choose, fun r => (h r).choose_spec⟩

theorem copyStaInfo_eq (r : Msg) (m : Mem σ) :
    copyStaInfo r m = .done (({} : Rec).setBuf .mac ((r.bytes .mac).take 6)
      |>.setNum .rssi (r.num .rssi)) (m.note (copiesOf 6 (r.bytes .mac))) := by
  unfold copyStaInfo
  rw [bind_done (rpcRspCopyBytes_eq _ _ m)]
  rfl

/-- A loop over AP records ends in a list of as many records, or runs off the end of the list. -/
theorem wp_takeEach_apRecords {Q : List Rec → Mem σ → Prop} {n : Nat} {rs : List Msg}
    {R : Mem σ → Prop} (hQ : ∀ xs m, xs.length = n → (Q xs m ↔ R m)) :
    wp (takeEach rpcCopyApRecord n rs) F E Q m ↔
      if n ≤ rs.length then R (m.note ((rs.take n).flatMap apRecordCopies))
      else F .outside (m.note (rs.flatMap apRecordCopies)) := by
  obtain ⟨v, hv⟩ := rpcCopyApRecord_eq
  exact wp_takeEach hv hQ

theorem wp_takeEach_sta {Q : List Rec → Mem σ → Prop} {n : Nat} {rs : List Msg}
    {R : Mem σ → Prop} (hQ : ∀ xs m, xs.length = n → (Q xs m ↔ R m)) :
    wp (takeEach copyStaInfo n rs) F E Q m ↔
      if n ≤ rs.length then R (m.note ((rs.take n).flatMap fun r => copiesOf 6 (r.bytes .mac)))
      else F .outside (m.note (rs.flatMap fun r => copiesOf 6 (r.bytes .mac))) :=
  wp_takeEach copyStaInfo_eq hQ

@[simp] theorem wp_setStatus {F : Fault → Mem CtrlCmd → Prop} {E : Mem CtrlCmd → Prop}
    {Q : Unit → Mem CtrlCmd → Prop} (x : Int) :
    wp (setStatus x) F E Q = fun m => Q () (m.put { m.store with respEventStatus := x }) := rfl

@[simp] theorem wp_setU {F : Fault → Mem CtrlCmd → Prop} {E : Mem CtrlCmd → Prop}
    {Q : Unit → Mem CtrlCmd → Prop} (f : Rec → Rec) :
    wp (setU f) F E Q = fun m => Q () (m.put { m.store with u := f m.store.u }) := rfl

end Rules

/-- The payload, if there is one, is the member `a` and satisfies `P`. -/
def Guarded (rpc : Rpc) (a : Member) (P : Msg → Prop) : Prop :=
  ∀ b p, rpc.payload = some (b, p) → b = a ∧ P p

theorem wp_member {σ : Type} {rpc : Rpc} {a : Member} {F : Fault → Mem σ → Prop}
    {E : Mem σ → Prop} {Q : Msg → Mem σ → Prop} {m : Mem σ} :
    wp (nonNull (rpc.member a)) F E Q m ↔ (rpc.payload = none → E m) ∧
      ∀ b p, rpc.payload = some (b, p) → if b = a then Q p m else F .other m := by
  unfold Rpc.member
  cases hp : rpc.payload with
  | none => simp
  | some q =>
    obtain ⟨b, p⟩ := q
    by_cases hab : a = b
    · subst hab
      simp
    · have hba : b ≠ a := fun h => hab h.symm
      simp [hab, hba]

/-- A branch after its two macros: a payload must be the tested member, and the rest of the branch
counts when that says success. -/
theorem wp_checked {rpc : Rpc} {c : Call} {body : Msg → Prog CtrlCmd Unit} {m : Mem CtrlCmd}
    {E : Mem CtrlCmd → Prop} {Q : Unit → Mem CtrlCmd → Prop} {P : Msg → Prop}
    (hE : E m) (hPut : ∀ s, E (m.put s))
    (h : ∀ p, rpc.payload = some (.resp c, p) → (wp (body p) (fun _ _ => False) E Q m ↔ P p)) :
    wp (checked rpc c body) (fun _ _ => False) E Q m ↔
      Guarded rpc (.resp c) fun p => p.num .resp = 0 → P p := by
  unfold checked Guarded
  simp only [wp_bind, wp_member, hE, implies_true, true_and]
  refine forall₃_congr fun b p hPayload => ?_
  by_cases hb : b = .resp c
  · rw [if_pos hb]
    by_cases hp : p.num .resp = 0
    · rw [if_pos hp, h p (by rw [hPayload, hb])]
      simp only [hb, hp, true_and, forall_const]
    · rw [if_neg hp]
      simp only [wp_bind, wp_setStatus, wp_fail, hPut, hb, hp, true_and, false_imp_iff]
  · rw [if_neg hb]
    simp only [hb, false_and]

@[simp] theorem wp_copyToU {F : Fault → Mem CtrlCmd → Prop} {E : Mem CtrlCmd → Prop}
    {Q : Unit → Mem CtrlCmd → Prop} (f : Field) (room : Nat) (src : List UInt8) :
    wp (copyToU f room src) F E Q = fun m => Q () ((m.note (copiesOf room src)).put
      { m.store with u := m.store.u.setBuf f (src.take room) }) := by
  unfold copyToU
  simp only [wp_bind, wp_rpcRspCopyBytes, wp_setU]
  rfl

@[simp] theorem wp_copyNums {F : Fault → Mem CtrlCmd → Prop} {E : Mem CtrlCmd → Prop}
    {Q : Unit → Mem CtrlCmd → Prop} (p : Msg) (fs : List Field) :
    wp (copyNums p fs) F E Q =
      fun m => Q () (m.put { m.store with u := m.store.u.copyNums p fs }) := rfl

theorem wp_rpcCopyApRecord {σ : Type} {F : Fault → Mem σ → Prop} {E : Mem σ → Prop}
    {Q : Rec → Mem σ → Prop} {R : Mem σ → Prop} {m : Mem σ} {r : Msg}
    (hQ : ∀ x m, Q x m ↔ R m) :
    wp (rpcCopyApRecord r) F E Q m ↔ R (m.note (apRecordCopies r)) := by
  obtain ⟨v, hv⟩ := rpcCopyApRecord_eq (σ := σ)
  rw [wp_of_eq (hv r m)]
  exact hQ _ _

/-- The copies of `RPC_UTILS_COPY_BYTES` stay inside. -/
theorem wp_rpcUtilsCopyBytes {σ : Type} {F : Fault → Mem σ → Prop} {E : Mem σ → Prop}
    {Q : List UInt8 → Mem σ → Prop} {m : Mem σ} {room : Nat} {src : List UInt8}
    (h : ∀ b as, (∀ a ∈ as, a.Ok) → Q b (m.note as)) :
    wp (rpcUtilsCopyBytes room src) F E Q m := by
  unfold rpcUtilsCopyBytes
  split
  · rw [wp_pure, ← m.note_nil]
    exact h [] [] (by simp)
  · rw [wp_memcpy]
    exact h _ _ (by simp only [List.mem_singleton, forall_eq, Access.Ok]; omega)

/-- `rpc_copy_wifi_sta_config` completes, and its copies stay inside. -/
theorem wp_rpcCopyWifiStaConfig {F : Fault → Mem CtrlCmd → Prop} {E : Mem CtrlCmd → Prop}
    {Q : Unit → Mem CtrlCmd → Prop} {m : Mem CtrlCmd} (src : Msg)
    (h : ∀ m' : Mem CtrlCmd, (m.Good → m'.Good) → Q () m') :
    wp (rpcCopyWifiStaConfig src) F E Q m := by
  unfold rpcCopyWifiStaConfig
  simp only [wp_bind, wp_setU]
  refine wp_rpcUtilsCopyBytes fun ssid as hAs => ?_
  refine wp_rpcUtilsCopyBytes fun password bs hBs => ?_
  refine wp_rpcUtilsCopyBytes fun bssid cs hCs => ?_
  cases src.sub .pmfCfg with
  | none =>
    apply h
    intro hm
    simp only [Mem.good_put, Mem.note_note, Mem.good_note, List.mem_append, hm, true_and]
    rintro a ((h | h) | h)
    · exact hAs a h
    · exact hBs a h
    · exact hCs a h
  | some pmf =>
    simp only [wp_bind, wp_setU]
    apply h
    intro hm
    simp only [Mem.good_put, Mem.note_note, Mem.good_note, List.mem_append, hm, true_and]
    rintro a ((h | h) | h)
    · exact hAs a h
    · exact hBs a h
    · exact hCs a h

/-! ## Branches without a fault -/

/-- The union of the configuration does not hold another part than the interface asks for. -/
def GetConfigReads (p : Msg) : Prop :=
  ∀ cfg, p.sub .cfg = some cfg → (u8 (p.num .iface) = 0 → cfg.unionMember .sta ≠ .other) ∧
    (u8 (p.num .iface) = 1 → cfg.unionMember .ap ≠ .other)

/-- No more records are announced than there are, or than the index can count. -/
def ApRecordsRead (env : HostEnv) (p : Msg) : Prop :=
  p.num .number ≠ 0 → p.list .apRecords ≠ [] → env.callocList = true →
    (p.num .number).toNat < 65536 ∧ (p.num .number).toNat ≤ (p.list .apRecords).length

/-- There is a station list with as many stations as are copied. -/
def StaListRead (p : Msg) : Prop :=
  ∃ l, p.sub .staList = some l ∧ numStations l ≤ (l.list .sta).length

theorem safe_parseAppDesc (p : Msg) (m : Mem CtrlCmd) : Safe (parseAppDesc p) m := by
  unfold parseAppDesc Safe
  cases p.sub .appDesc <;> simp

theorem safe_parseApInfo (env : HostEnv) (p : Msg) (m : Mem CtrlCmd) :
    Safe (parseApInfo env p) m := by
  unfold parseApInfo Safe
  cases p.sub .apRecord with
  | none => simp
  | some r =>
    simp only [wp_bind, wp_need, wp_setU, wp_modify, wp_load_some, Option.isSome_some, if_true]
    rw [wp_rpcCopyApRecord (R := fun _ => True) (by simp)]
    simp

theorem safe_parseGetConfig (p : Msg) (m : Mem CtrlCmd) :
    Safe (parseGetConfig p) m ↔ GetConfigReads p := by
  unfold parseGetConfig Safe GetConfigReads
  cases p.sub .cfg with
  | none => simp
  | some cfg =>
    simp only [wp_bind, wp_need, wp_setU, wp_load_some, Option.isSome_some, if_true, wp_ite,
      Option.some.injEq, forall_eq']
    by_cases h0 : u8 (p.num .iface) = 0
    · cases cfg.unionMember .sta with
      | null => simp [h0]
      | other => simp [h0]
      | obj q =>
        have hSta := wp_rpcCopyWifiStaConfig (F := fun _ _ => False) (E := fun _ => True)
          (Q := fun _ _ => True) (m := m.put { m.store with
            u := m.store.u.setNum .iface (u8 (p.num .iface)) }) q (by simp)
        simpa [h0] using hSta
    · by_cases h1 : u8 (p.num .iface) = 1
      · cases cfg.unionMember .ap <;> simp [h1]
      · simp [h0, h1]

theorem safe_parseApRecords (env : HostEnv) (p : Msg) (m : Mem CtrlCmd) :
    Safe (parseApRecords env p) m ↔ ApRecordsRead env p := by
  unfold parseApRecords Safe ApRecordsRead
  simp only [wp_bind, wp_need, wp_setU, wp_modify, wp_ite, wp_note, wp_fault]
  by_cases hn : p.num .number = 0
  · simp [hn]
  · by_cases hl : p.list .apRecords = []
    · simp [hn, hl]
    · by_cases hc : env.callocList = true
      · rw [wp_takeEach_apRecords (R := fun _ => (p.num .number).toNat < 65536) (by simp)]
        simp only [hn, hl, hc, ne_eq, not_false_eq_true, decide_true, if_true, forall_const]
        by_cases hBig : (p.num .number).toNat < 65536
        · simp [hBig, Nat.min_eq_left (Nat.le_of_lt hBig)]
        · simp [hBig]
      · simp [hn, hl, hc]

theorem safe_parseStaList (p : Msg) (m : Mem CtrlCmd) :
    Safe (parseStaList p) m ↔ StaListRead p := by
  unfold parseStaList Safe StaListRead
  cases p.sub .staList with
  | none => simp
  | some l =>
    simp only [wp_bind, wp_load_some, wp_note, wp_modify, wp_setU, Option.some.injEq,
      exists_eq_left']
    rw [wp_takeEach_sta (R := fun _ => True) (by simp)]
    simp

theorem safe_parseFwVersion (p : Msg) (m : Mem CtrlCmd) : Safe (parseFwVersion p) m := by
  unfold parseFwVersion Safe
  simp

theorem safe_parseCustomRpc (env : HostEnv) (p : Msg) (m : Mem CtrlCmd) :
    Safe (parseCustomRpc env p) m := by
  unfold parseCustomRpc Safe
  simp

theorem safe_parseBands (p : Msg) (f : Field) (m : Mem CtrlCmd) :
    Safe (parseBands p f) m ↔ (p.sub f).isSome := by
  unfold parseBands Safe
  cases p.sub f <;> simp

/-- All that is read of a memory report is there. -/
def HasMemInfo (p : Msg) : Prop :=
  ∃ i e a b c d, p.sub .currInternal = some i ∧ p.sub .currExternal = some e ∧
    i.sub .memDma = some a ∧ i.sub .mem8bit = some b ∧
    e.sub .memDma = some c ∧ e.sub .mem8bit = some d

/-- The tests before a memory report end in `fail` unless all of it is there. -/
theorem wp_needMemInfo {E : Mem CtrlCmd → Prop} {Q : Unit → Mem CtrlCmd → Prop} {p : Msg}
    {m : Mem CtrlCmd} (hE : E m) (hQ : HasMemInfo p → Q () m) :
    wp (needMemInfo p) (fun _ _ => False) E Q m := by
  unfold needMemInfo
  cases hi : p.sub .currInternal with
  | none => simpa using hE
  | some i =>
    simp only [Option.isSome_some, wp_bind, wp_need, wp_load_some, if_true]
    cases ha : i.sub .memDma with
    | none => simpa using hE
    | some a =>
      simp only [Option.isSome_some, if_true]
      cases hb : i.sub .mem8bit with
      | none => simpa using hE
      | some b =>
        simp only [Option.isSome_some, if_true]
        cases he : p.sub .currExternal with
        | none => simpa using hE
        | some e =>
          simp only [Option.isSome_some, wp_load_some, if_true]
          cases hc : e.sub .memDma with
          | none => simpa using hE
          | some c =>
            simp only [Option.isSome_some, if_true]
            cases hd : e.sub .mem8bit with
            | none => simpa using hE
            | some d => exact hQ ⟨i, e, a, b, c, d, hi, he, ha, hb, hc, hd⟩

theorem memInfo_eq {p : Msg} (h : HasMemInfo p) : ∃ words, ∀ m, memInfo p m = .done words m := by
  obtain ⟨i, e, a, b, c, d, hi, he, ha, hb, hc, hd⟩ := h
  apply Exists.intro
  intro m
  unfold memInfo
  simp only [hi, he, ha, hb, hc, hd, load_some_bind]
  rfl

theorem wp_parseMemMonitor {E : Mem CtrlCmd → Prop} {Q : Unit → Mem CtrlCmd → Prop} {p : Msg}
    {m : Mem CtrlCmd} (hE : E m) (hQ : ∀ s, Q () (m.put s)) :
    wp (parseMemMonitor p) (fun _ _ => False) E Q m := by
  unfold parseMemMonitor
  rw [wp_bind]
  apply wp_needMemInfo hE
  intro hInfo
  obtain ⟨words, hWords⟩ := memInfo_eq hInfo
  split <;>
  · simp only [wp_bind, wp_copyNums, wp_modify, wp_of_eq (hWords _)]
    exact hQ _

/-! ## Copies that stay inside -/

/-- The strings of an AP record fit the arrays they are copied to. -/
def ApRecordFits (r : Msg) : Prop :=
  (r.bytes .ssid).length ≤ 32 ∧ (r.bytes .bssid).length ≤ 6 ∧
    ∀ country, r.sub .country = some country → (country.bytes .cc).length ≤ 3

theorem apRecordCopies_ok {r : Msg} : (∀ a ∈ apRecordCopies r, a.Ok) ↔ ApRecordFits r := by
  unfold apRecordCopies ApRecordFits
  simp only [List.mem_append, or_imp, forall_and, copiesOf_ok, and_assoc]
  cases r.sub .country with
  | none => simp
  | some country => simp [copiesOf_ok]

/-- The configuration of the soft AP fits. The one of the station is cut to size. -/
def GetConfigFits (p : Msg) : Prop :=
  ∀ cfg, p.sub .cfg = some cfg → u8 (p.num .iface) = 1 → ∀ ap, cfg.unionMember .ap = .obj ap →
    (ap.bytes .ssid).length ≤ 32 ∧ (ap.bytes .password).length ≤ 64

/-- Every AP record that is copied fits. -/
def ApRecordsFit (env : HostEnv) (p : Msg) : Prop :=
  p.num .number ≠ 0 → p.list .apRecords ≠ [] → env.callocList = true →
    ∀ r ∈ (p.list .apRecords).take (p.num .number).toNat, ApRecordFits r

def ApInfoFits (env : HostEnv) (p : Msg) : Prop :=
  ∀ r, p.sub .apRecord = some r → env.callocList = true → ApRecordFits r

/-- The addresses of the stations that are copied fit. -/
def StaListFits (p : Msg) : Prop :=
  ∀ l, p.sub .staList = some l →
    ∀ r ∈ (l.list .sta).take (numStations l), (r.bytes .mac).length ≤ 6

/-- The strings of an application descriptor fit. -/
def AppDescFits (p : Msg) : Prop :=
  ∀ d, p.sub .appDesc = some d → (d.bytes .version).length ≤ 32 ∧
    (d.bytes .projectName).length ≤ 32 ∧ (d.bytes .time).length ≤ 16 ∧
    (d.bytes .date).length ≤ 16 ∧ (d.bytes .idfVer).length ≤ 32 ∧
    (d.bytes .appElfSha256).length ≤ 32

section InBounds

variable {env : HostEnv} {p : Msg} {m : Mem CtrlCmd}

theorem inBounds_parseAppDesc (hGood : m.Good) : InBounds (parseAppDesc p) m ↔ AppDescFits p := by
  unfold parseAppDesc InBounds AppDescFits
  cases p.sub .appDesc with
  | none => simpa using hGood
  | some d => simp [hGood, forall_and, copiesOf_ok, and_assoc]

theorem inBounds_parseApInfo (hGood : m.Good) :
    InBounds (parseApInfo env p) m ↔ ApInfoFits env p := by
  unfold parseApInfo InBounds ApInfoFits
  cases p.sub .apRecord with
  | none => simpa using hGood
  | some r =>
    simp only [wp_bind, wp_need, wp_setU, wp_modify, wp_load_some, Option.isSome_some, if_true]
    by_cases hc : env.callocList = true
    · rw [if_pos hc, wp_rpcCopyApRecord (R := Mem.Good) (by simp)]
      simp [hGood, hc, apRecordCopies_ok]
    · simp [hGood, hc]

theorem inBounds_parseGetConfig (hGood : m.Good) :
    InBounds (parseGetConfig p) m ↔ GetConfigReads p ∧ GetConfigFits p := by
  unfold parseGetConfig InBounds GetConfigReads GetConfigFits
  cases p.sub .cfg with
  | none => simpa using hGood
  | some cfg =>
    simp only [wp_bind, wp_need, wp_setU, wp_load_some, Option.isSome_some, if_true, wp_ite,
      Option.some.injEq, forall_eq']
    by_cases h0 : u8 (p.num .iface) = 0
    · cases cfg.unionMember .sta with
      | null => simp [h0, hGood]
      | other => simp [h0]
      | obj q =>
        have hSta := wp_rpcCopyWifiStaConfig (F := fun _ _ => False) (E := Mem.Good)
          (Q := fun _ => Mem.Good) (m := m.put { m.store with
            u := m.store.u.setNum .iface (u8 (p.num .iface)) }) q
          (fun m' h => h (by simpa using hGood))
        simpa [h0] using hSta
    · by_cases h1 : u8 (p.num .iface) = 1
      · cases cfg.unionMember .ap with
        | null => simp [h1, hGood]
        | other => simp [h1]
        | obj q => simp [h1, hGood, forall_and, copiesOf_ok]
      · simp [h0, h1, hGood]

theorem inBounds_parseApRecords (hGood : m.Good) :
    InBounds (parseApRecords env p) m ↔ ApRecordsRead env p ∧ ApRecordsFit env p := by
  unfold parseApRecords InBounds ApRecordsRead ApRecordsFit
  simp only [wp_bind, wp_need, wp_setU, wp_modify, wp_ite, wp_note, wp_fault]
  by_cases hn : p.num .number = 0
  · simp [hn, hGood]
  · by_cases hl : p.list .apRecords = []
    · simp [hn, hl, hGood]
    · by_cases hc : env.callocList = true
      · generalize (p.num .number).toNat = n
        have hList (rs : List Rec) (m : Mem CtrlCmd) (hLen : rs.length = min n 65536) :
            (if n < 65536 then (m.note [.list n (p.list .apRecords).length n rs.length]).Good
              else False) ↔ (n < 65536 ∧ n ≤ (p.list .apRecords).length) ∧ m.Good := by
          by_cases hBig : n < 65536
          · simp only [hBig, if_true, Mem.good_note, List.mem_singleton, forall_eq, Access.Ok, hLen]
            rw [and_comm, true_and]
            refine and_congr_left' ?_
            omega
          · simp [hBig]
        simp only [hn, hl, hc, ne_eq, not_false_eq_true, decide_true, if_true, forall_const,
          Mem.good_put]
        rw [wp_takeEach_apRecords hList]
        simp only [Mem.good_note, Mem.good_put, hGood, true_and, List.mem_flatMap]
        by_cases hRead : n < 65536 ∧ n ≤ (p.list .apRecords).length
        · have hMin : min n 65536 = n := Nat.min_eq_left (Nat.le_of_lt hRead.1)
          rw [hMin, if_pos hRead.2]
          simp only [hRead, true_and, ← apRecordCopies_ok]
          refine ⟨fun h r hr a ha => h a ⟨r, hr, ha⟩, fun h a hMem => ?_⟩
          obtain ⟨r, hr, ha⟩ := hMem
          exact h r hr a ha
        · simp [hRead]
      · simp [hn, hl, hc, hGood]

theorem inBounds_parseStaList (hGood : m.Good) :
    InBounds (parseStaList p) m ↔ StaListRead p ∧ StaListFits p := by
  unfold parseStaList InBounds StaListRead StaListFits
  cases p.sub .staList with
  | none => simp
  | some l =>
    simp only [wp_bind, wp_load_some, wp_note, wp_modify, wp_setU, Option.some.injEq,
      exists_eq_left', forall_eq']
    have hList (rs : List Rec) (m : Mem CtrlCmd) (hLen : rs.length = numStations l) :
        (m.note [.list (u32 (l.num .num)).toNat (l.list .sta).length 10 rs.length]).Good ↔
          numStations l ≤ (l.list .sta).length ∧ m.Good := by
      simp only [Mem.good_note, List.mem_singleton, forall_eq, Access.Ok, hLen, numStations]
      rw [and_comm]
      refine and_congr_left' ?_
      omega
    simp only [Mem.good_put]
    rw [wp_takeEach_sta hList]
    simp only [Mem.good_note, hGood, true_and, List.mem_flatMap]
    by_cases hRead : numStations l ≤ (l.list .sta).length
    · simp only [hRead, if_true, true_and, ← copiesOf_ok]
      refine ⟨fun h r hr a ha => h a ⟨r, hr, ha⟩, fun h a hMem => ?_⟩
      obtain ⟨r, hr, ha⟩ := hMem
      exact h r hr a ha
    · simp [hRead]

theorem inBounds_parseFwVersion (hGood : m.Good) : InBounds (parseFwVersion p) m := by
  have hRoom : min (p.bytes .idfTarget).length 19 ≤ 20 := by omega
  unfold parseFwVersion InBounds
  simp [hGood, Access.Ok, hRoom, Nat.min_le_left]

theorem inBounds_parseCustomRpc (hGood : m.Good) : InBounds (parseCustomRpc env p) m := by
  unfold parseCustomRpc InBounds
  simp [hGood, Access.Ok]

theorem inBounds_parseBands (f : Field) (hGood : m.Good) :
    InBounds (parseBands p f) m ↔ (p.sub f).isSome := by
  unfold parseBands InBounds
  cases p.sub f with
  | none => simp
  | some b => simpa using hGood

end InBounds

/-! ## The switch -/

/-- What a branch needs to find behind the member it tested. -/
def RespBodyReads (env : HostEnv) (c : Call) (p : Msg) : Prop :=
  match c with
  | .wifiGetConfig => GetConfigReads p
  | .wifiScanGetApRecords => ApRecordsRead env p
  | .wifiGetCountry => (p.sub .country).isSome
  | .wifiApGetStaList => StaListRead p
  | .wifiGetProtocols => (p.sub .protocols).isSome
  | .wifiGetBandwidths => (p.sub .bandwidths).isSome
  | _ => True

/-- What must fit the arrays that a branch copies to. -/
def RespBodyFits (env : HostEnv) (c : Call) (p : Msg) : Prop :=
  match c with
  | .getMACAddress => (p.bytes .mac).length ≤ 6
  | .wifiGetConfig => GetConfigFits p
  | .wifiScanGetApRecords => ApRecordsFit env p
  | .wifiStaGetApInfo => ApInfoFits env p
  | .wifiGetCountryCode => (p.bytes .country).length ≤ 3
  | .wifiGetCountry => ∀ country, p.sub .country = some country → (country.bytes .cc).length ≤ 3
  | .wifiApGetStaList => StaListFits p
  | .ifaceMacAddrSetGet => (p.bytes .mac).length ≤ 8
  | .appGetDesc => AppDescFits p
  | _ => True

theorem safe_parseRespBody (env : HostEnv) (c : Call) (p : Msg) (m : Mem CtrlCmd) :
    Safe (parseRespBody env c p) m ↔ RespBodyReads env c p := by
  cases c
  case wifiGetConfig => exact safe_parseGetConfig p m
  case wifiScanGetApRecords => exact safe_parseApRecords env p m
  case wifiApGetStaList => exact safe_parseStaList p m
  case wifiGetProtocols => exact safe_parseBands p .protocols m
  case wifiGetBandwidths => exact safe_parseBands p .bandwidths m
  case wifiStaGetApInfo => exact iff_of_true (safe_parseApInfo env p m) trivial
  case getCoprocessorFwVersion => exact iff_of_true (safe_parseFwVersion p m) trivial
  case customRpc => exact iff_of_true (safe_parseCustomRpc env p m) trivial
  case appGetDesc => exact iff_of_true (safe_parseAppDesc p m) trivial
  case memMonitor => exact iff_of_true (wp_parseMemMonitor trivial fun _ => trivial) trivial
  case wifiGetCountry =>
    unfold parseRespBody RespBodyReads Safe
    cases p.sub .country <;> simp
  all_goals simp [parseRespBody, RespBodyReads, Safe]

theorem inBounds_parseRespBody {m : Mem CtrlCmd} (env : HostEnv) (c : Call) (p : Msg)
    (hGood : m.Good) :
    InBounds (parseRespBody env c p) m ↔ RespBodyReads env c p ∧ RespBodyFits env c p := by
  cases c
  case wifiGetConfig => exact inBounds_parseGetConfig hGood
  case wifiScanGetApRecords => exact inBounds_parseApRecords hGood
  case wifiApGetStaList => exact inBounds_parseStaList hGood
  case wifiGetProtocols =>
    exact (inBounds_parseBands .protocols hGood).trans (iff_of_eq (and_true _)).symm
  case wifiGetBandwidths =>
    exact (inBounds_parseBands .bandwidths hGood).trans (iff_of_eq (and_true _)).symm
  case wifiStaGetApInfo => exact (inBounds_parseApInfo hGood).trans (iff_of_eq (true_and _)).symm
  case appGetDesc => exact (inBounds_parseAppDesc hGood).trans (iff_of_eq (true_and _)).symm
  case getCoprocessorFwVersion =>
    exact iff_of_true (inBounds_parseFwVersion hGood) ⟨trivial, trivial⟩
  case customRpc => exact iff_of_true (inBounds_parseCustomRpc hGood) ⟨trivial, trivial⟩
  case memMonitor =>
    exact iff_of_true (wp_parseMemMonitor hGood fun _ => hGood) ⟨trivial, trivial⟩
  case getMACAddress =>
    unfold parseRespBody RespBodyReads RespBodyFits InBounds
    by_cases hMac : p.bytes .mac = []
    · simp [hMac, hGood]
    · simp [hMac, hGood, copiesOf_ok]
  case wifiGetCountry =>
    unfold parseRespBody RespBodyReads RespBodyFits InBounds
    cases p.sub .country with
    | none => simp
    | some country => simp [hGood, copiesOf_ok]
  all_goals simp [parseRespBody, RespBodyReads, RespBodyFits, InBounds, hGood, copiesOf_ok]

/-- The configuration in `Resp_WifiScanParams` comes with its two times. -/
def ScanParamsRead (q : Msg) : Prop :=
  ∀ config, q.sub .config = some config →
    ∃ t active, config.sub .scanTime = some t ∧ t.sub .active = some active

/-- What one branch needs to find. -/
def RespCallReads (env : HostEnv) (rpc : Rpc) (c : Call) : Prop :=
  match c with
  | .getDhcpDnsStatus => True
  | .wifiScanParams => ∃ q, rpc.payload = some (.resp .wifiScanParams, q) ∧
      (q.num .resp = 0 → ScanParamsRead q)
  | .wifiScanGetApRecord => Guarded rpc (.resp .wifiScanGetApRecords) fun p => p.num .resp ≠ 0
  | .wifiStaItwtSendProbeReq => Guarded rpc (.resp .wifiStaItwtSuspend) fun _ => True
  | .wifiSetBand | .wifiSetBandMode => Guarded rpc (.resp .wifiSetCountryCode) fun _ => True
  | c => Guarded rpc (.resp c) fun p => p.num .resp = 0 → RespBodyReads env c p

/-- What must fit when one branch copies. -/
def RespCallFits (env : HostEnv) (rpc : Rpc) (c : Call) : Prop :=
  ∀ p, rpc.payload = some (.resp c, p) → p.num .resp = 0 → RespBodyFits env c p

theorem wp_parseScanParams {E : Mem CtrlCmd → Prop} {Q : Unit → Mem CtrlCmd → Prop} {q : Msg}
    {m : Mem CtrlCmd} (hQ : ∀ s, Q () (m.put s)) :
    wp (parseScanParams q) (fun _ _ => False) E Q m ↔ ScanParamsRead q := by
  unfold parseScanParams ScanParamsRead
  cases q.sub .config with
  | none => exact iff_of_true (hQ m.store) (by simp)
  | some config =>
    simp only [wp_bind, Option.some.injEq, forall_eq']
    cases config.sub .scanTime with
    | none => simp
    | some t =>
      simp only [wp_load_some, Option.some.injEq, exists_and_left, exists_eq_left']
      cases t.sub .active with
      | none => simp
      | some active =>
        simp only [wp_load_some, wp_copyNums, Option.some.injEq, exists_eq', iff_true]
        exact hQ _

theorem guarded_and {rpc : Rpc} {a : Member} {P Q : Msg → Prop} :
    (Guarded rpc a fun p => P p ∧ Q p) ↔
      Guarded rpc a P ∧ ∀ p, rpc.payload = some (a, p) → Q p := by
  constructor
  · intro h
    refine ⟨fun b p hp => ⟨(h b p hp).1, (h b p hp).2.1⟩, fun p hp => (h a p hp).2.2⟩
  · rintro ⟨h, hQ⟩ b p hp
    obtain ⟨hb, hP⟩ := h b p hp
    subst hb
    exact ⟨rfl, hP, hQ p hp⟩

section Switch

variable {E : Mem CtrlCmd → Prop} {Q : Unit → Mem CtrlCmd → Prop} {m : Mem CtrlCmd}

/-- The branch that reads its member before it tests it. -/
theorem wp_parseResp_scanParams (env : HostEnv) (rpc : Rpc) (hE : E m) (hPut : ∀ s, E (m.put s))
    (hQ : ∀ s, Q () (m.put s)) :
    wp (parseResp env rpc .wifiScanParams) (fun _ _ => False) E Q m ↔
      RespCallReads env rpc .wifiScanParams := by
  unfold parseResp RespCallReads Rpc.member
  cases hp : rpc.payload with
  | none => simp
  | some q =>
    obtain ⟨b, q⟩ := q
    by_cases hb : b = .resp .wifiScanParams
    · subst hb
      simp only [wp_bind, wp_deref_obj, if_true]
      rw [wp_checked hE hPut fun _ _ => wp_parseScanParams hQ]
      simp [Guarded, hp]
    · have hb' : Member.resp .wifiScanParams ≠ b := fun h => hb h.symm
      simp [hb, hb']

/-- The branch that tests the member of the whole list and reads the one of a single record. -/
theorem wp_parseResp_scanGetApRecord (env : HostEnv) (rpc : Rpc) (hE : E m)
    (hPut : ∀ s, E (m.put s)) :
    wp (parseResp env rpc .wifiScanGetApRecord) (fun _ _ => False) E Q m ↔
      RespCallReads env rpc .wifiScanGetApRecord := by
  unfold parseResp RespCallReads
  refine wp_checked hE hPut fun p hp => ?_
  unfold Rpc.member
  rw [hp]
  simp

/-- Every other branch, for a postcondition that its last part meets exactly when `P`. -/
theorem wp_parseResp {P : Call → Msg → Prop} (env : HostEnv) (rpc : Rpc) (c : Call) (hE : E m)
    (hPut : ∀ s, E (m.put s)) (hQ : ∀ s, Q () (m.put s))
    (h : ∀ c p, wp (parseRespBody env c p) (fun _ _ => False) E Q m ↔
      RespBodyReads env c p ∧ P c p) (hP : ∀ c p, RespBodyFits env c p → P c p) :
    wp (parseResp env rpc c) (fun _ _ => False) E Q m ↔ RespCallReads env rpc c ∧
      ∀ p, rpc.payload = some (.resp c, p) → p.num .resp = 0 → P c p := by
  have hOther (c' : Call) : wp (checked rpc c' fun _ => pure ()) (fun _ _ => False) E Q m ↔
      Guarded rpc (.resp c') fun _ => True := by
    have hPure : wp (pure () : Prog CtrlCmd Unit) (fun _ _ => False) E Q m := hQ m.store
    rw [wp_checked (P := fun _ => True) hE hPut fun _ _ => iff_of_true hPure trivial]
    simp [Guarded]
  have hOwn : wp (checked rpc c (parseRespBody env c)) (fun _ _ => False) E Q m ↔
      (Guarded rpc (.resp c) fun p => p.num .resp = 0 → RespBodyReads env c p) ∧
        ∀ p, rpc.payload = some (.resp c, p) → p.num .resp = 0 → P c p := by
    rw [wp_checked hE hPut fun p _ => h c p, ← guarded_and]
    simp only [← imp_and]
  cases c
  case wifiScanParams =>
    rw [wp_parseResp_scanParams env rpc hE hPut hQ]
    exact (and_iff_left fun p _ _ => hP .wifiScanParams p trivial).symm
  case wifiScanGetApRecord =>
    rw [wp_parseResp_scanGetApRecord env rpc hE hPut]
    exact (and_iff_left fun p _ _ => hP .wifiScanGetApRecord p trivial).symm
  case wifiStaItwtSendProbeReq =>
    exact (hOther _).trans (and_iff_left fun p _ _ => hP .wifiStaItwtSendProbeReq p trivial).symm
  case wifiSetBand =>
    exact (hOther _).trans (and_iff_left fun p _ _ => hP .wifiSetBand p trivial).symm
  case wifiSetBandMode =>
    exact (hOther _).trans (and_iff_left fun p _ _ => hP .wifiSetBandMode p trivial).symm
  case getDhcpDnsStatus =>
    exact iff_of_true hE ⟨trivial, fun p _ _ => hP .getDhcpDnsStatus p trivial⟩
  all_goals exact hOwn

end Switch

/-- What `rpc_parse_rsp` needs to find: the payload is the member that the branch for the id
reads, and what the branch does not test is there. -/
def RspReads (env : HostEnv) (rpc : Rpc) : Prop :=
  ∀ c, respCall rpc.msgId = some c → RespCallReads env rpc c

/-- What must fit when `rpc_parse_rsp` copies. -/
def RspFits (env : HostEnv) (rpc : Rpc) : Prop :=
  ∀ c, respCall rpc.msgId = some c → RespCallFits env rpc c

theorem respCall_respBase : respCall respBase = none := by decide

/-- The whole function, for a postcondition that does not depend on the result. -/
theorem wp_rpcParseRsp {E : Mem CtrlCmd → Prop} {P : Call → Prop} {m : Mem CtrlCmd}
    (env : HostEnv) (rpc : Rpc) (hE : E m) (hPut : ∀ m s, E (Mem.put m s) ↔ E m)
    (h : ∀ c s, wp (parseResp env rpc c) (fun _ _ => False) E (fun _ => E) (m.put s) ↔ P c) :
    wp (rpcParseRsp env rpc) (fun _ _ => False) E (fun _ => E) m ↔
      ∀ c, respCall rpc.msgId = some c → P c := by
  unfold rpcParseRsp parseRspBody
  simp only [wp_bind, wp_attempt, wp_modify, wp_pure]
  by_cases hBase : rpc.msgId = respBase
  · rw [if_pos hBase, hBase, respCall_respBase]
    simp [hE, hPut]
  · rw [if_neg hBase]
    cases hCall : respCall rpc.msgId with
    | none => simp [hE, hPut]
    | some c =>
      simp only [wp_bind, wp_setStatus, hPut, Option.some.injEq, forall_eq']
      exact h c _

/-- `rpc_parse_rsp` ends without a fault exactly when what it reads is there. -/
theorem safe_rpcParseRsp (env : HostEnv) (rpc : Rpc) (m : Mem CtrlCmd) :
    Safe (rpcParseRsp env rpc) m ↔ RspReads env rpc := by
  refine wp_rpcParseRsp env rpc trivial (fun _ _ => Iff.rfl) fun c s => ?_
  rw [wp_parseResp (P := fun _ _ => True) env rpc c trivial (fun _ => trivial) (fun _ => trivial)
    (fun c p => (safe_parseRespBody env c p _).trans (iff_of_eq (and_true _)).symm)
    fun _ _ _ => trivial]
  exact and_iff_left fun _ _ _ => trivial

/-- Moreover its copies stay inside exactly when what it copies fits. -/
theorem inBounds_rpcParseRsp {m : Mem CtrlCmd} (env : HostEnv) (rpc : Rpc) (hGood : m.Good) :
    InBounds (rpcParseRsp env rpc) m ↔ RspReads env rpc ∧ RspFits env rpc := by
  have hRun : InBounds (rpcParseRsp env rpc) m ↔
      ∀ c, respCall rpc.msgId = some c → RespCallReads env rpc c ∧ RespCallFits env rpc c :=
    wp_rpcParseRsp env rpc hGood (fun _ _ => Iff.rfl) fun c s =>
      wp_parseResp env rpc c hGood (fun _ => hGood) (fun _ => hGood)
        (fun c p => inBounds_parseRespBody env c p hGood) fun _ _ h => h
  rw [hRun]
  unfold RspReads RspFits
  exact ⟨fun h => ⟨fun c hc => (h c hc).1, fun c hc => (h c hc).2⟩,
    fun h c hc => ⟨h.1 c hc, h.2 c hc⟩⟩

end EspHosted.Codec
