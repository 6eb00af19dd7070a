import EspHosted.Lib.Machine
import EspHosted.Wifi.Station

/-!
# Station configuration

`esp_hosted_set_sta_config` gives a configuration to the driver, or caches it when the station is
connecting or the driver does not take it; the host is answered `ESP_OK` either way. The next
connected or disconnected event tries the cached configuration again. The event loop does so while
the next request may be under way, and either may undo what the other has just done.

* `newest_step`: the newest configuration that was answered, or one that came after it, is the one
  of the driver when none is cached, and else the cached one;
* `clean_step`: no rejected configuration is left in the cache;
* `settled`: along steps that satisfy `Accepted` configurations are applied in order, the newest is
  applied or cached, and no link is taken down for a configuration that was rejected before.
-/

namespace EspHosted.Wifi.StaConfig

open Machine Station

/-! ## What is kept -/

/-- A connected or disconnected event. -/
def isLinkEvent : DriverEvent → Bool
  | .staConnected _ | .staDisconnected _ => true
  | _ => false

/-- The configuration of a request under way. -/
def config : ReqPc → Option Provision
  | .setTest c | .setApply c | .setCopy c | .setCopyRest c | .setFlag c | .setClear c => some c
  | _ => none

/-- The request has written half of its configuration into the cache. -/
def copies : ReqPc → Bool
  | .setCopyRest _ => true
  | _ => false

/-- The driver took the configuration of the request, which did not clear `new_config_recvd` yet. -/
def drops : ReqPc → Bool
  | .setClear _ => true
  | _ => false

/-- The event loop found a cached configuration that it will give to the driver. -/
def applies : EvtPc → Bool
  | .connApply | .discApply _ => true
  | _ => false

/-- The driver took the cached configuration, and `new_config_recvd` is not cleared yet. -/
def clears : EvtPc → Bool
  | .discClear _ => true
  | _ => false

/-- Configurations are applied in order and as they were brought, the newest that was answered (or
one that came after it) is applied or cached, and a cached configuration goes to the driver with the
next link event. A configuration that was rejected does not stay, so no link is taken down for it
again. -/
structure Settled (cfg : Config) (s : State) : Prop where
  in_order : ∀ e ∈ s.applied, e.answered ≤ e.seq
  kept : s.answered ≤ s.driver.config.seq ∨
    (s.newConfigRecvd = true ∧ s.answered ≤ s.newWifiConfig.seq)
  whole : s.driver.config ∈ s.provided
  cached : s.newConfigRecvd = true → copies s.req = false → s.newWifiConfig ∈ s.provided
  next_event : ∀ e rest r, s.newConfigRecvd = true → s.evt = .idle →
    s.driver.pending = e :: rest → isLinkEvent e = true →
    espWifiSetConfig cfg s.driver s.newWifiConfig r.setOk = .espOk →
    ∃ s', run (step cfg) s [.take, .evt r, .evt r] = some s' ∧ s'.driver.config = s.newWifiConfig
  not_stuck : s.rejected = false
  not_torn : ∀ again ∈ s.tornDown, again = false

/-- While the event loop is between its test of `new_config_recvd` and its call of the driver, no
request gives the driver a configuration, and while it has still to clear the flag, none sets it. -/
def ReqAccepted (evt : EvtPc) : ReqPc → Prop
  | .setApply _ => applies evt = false
  | .setFlag _ => clears evt = false
  | _ => True

/-- The event loop does not make the driver reject the cached configuration as invalid, nor gives
it one that is half copied, and it does not find the flag set that a request is about to clear. -/
def EvtAccepted (cfg : Config) (s : State) : EvtPc → Prop
  | .connTest _ | .discTest _ => s.newConfigRecvd = true → drops s.req = false
  | .connApply | .discApply _ => copies s.req = false ∧
    (s.driver.connecting = false → cfg.valid s.newWifiConfig.config = true)
  | _ => True

def Accepted (cfg : Config) (s : State) : Action → Prop
  | .req _ => ReqAccepted s.evt s.req
  | .evt _ => EvtAccepted cfg s s.evt
  | _ => True

instance (evt : EvtPc) : (pc : ReqPc) → Decidable (ReqAccepted evt pc)
  | .setApply _ | .setFlag _ => inferInstanceAs (Decidable (_ = false))
  | .idle | .setTest _ | .setCopy _ | .setCopyRest _ | .setClear _ | .connectGet | .connectTest
  | .connectMark | .connectCall | .connectFailed _ | .connectSend | .disconnect => .isTrue trivial

instance (cfg : Config) (s : State) : (pc : EvtPc) → Decidable (EvtAccepted cfg s pc)
  | .connTest _ | .discTest _ => inferInstanceAs (Decidable (_ = true → _ = false))
  | .connApply | .discApply _ => inferInstanceAs (Decidable (_ = false ∧ (_ = false → _ = true)))
  | .idle | .connDisconnect | .connSuppress | .connReset _ | .connSend _ | .connKeep _ | .connDone
  | .discClear _ | .discDown _ _ | .discMark _ _ | .discConnect _ | .discCheck _ | .discSend _
  | .discAuto | .discUnsuppress _ | .startTest | .startMark | .startConnect | .startSend
  | .stopMark | .stopSend => .isTrue trivial

instance (cfg : Config) (s : State) : (a : Action) → Decidable (Accepted cfg s a)
  | .req _ => inferInstanceAs (Decidable (ReqAccepted s.evt s.req))
  | .evt _ => inferInstanceAs (Decidable (EvtAccepted cfg s s.evt))
  | .setConfig _ | .wifiConnect | .wifiDisconnect | .dhcpTest | .dhcpSend | .associate | .leave
  | .start | .stop | .take => .isTrue trivial

/-- The part of the state that concerns configurations. -/
structure View where
  newConfigRecvd : Bool
  newWifiConfig : Provision
  config : Provision
  requests : Nat
  answered : Nat
  provided : List Provision
  applied : List Applied
  rejected : Bool
  tornDown : List Bool

def view (s : State) : View :=
  { newConfigRecvd := s.newConfigRecvd, newWifiConfig := s.newWifiConfig
    config := s.driver.config, requests := s.requests, answered := s.answered
    provided := s.provided, applied := s.applied, rejected := s.rejected, tornDown := s.tornDown }

/-- The newest configuration is cached, or else applied, as far as the two tasks have come. -/
structure Newest (v : View) (req : ReqPc) (evt : EvtPc) : Prop where
  answered : v.answered ≤ v.requests
  current : ∀ c, config req = some c → c.seq = v.requests ∧ c ∈ v.provided
  cached : v.newConfigRecvd = true → v.answered ≤ v.newWifiConfig.seq
  applied : v.newConfigRecvd = false → v.answered ≤ v.config.seq
  in_order : ∀ e ∈ v.applied, e.answered ≤ e.seq
  whole : v.config ∈ v.provided
  full : v.newConfigRecvd = true → copies req = false → v.newWifiConfig ∈ v.provided
  copying : ∀ c, req = .setCopyRest c → v.newWifiConfig.seq = c.seq
  copied : ∀ c, req = .setFlag c → v.newWifiConfig = c
  dropping : ∀ c, req = .setClear c → v.config = c
  applying : applies evt = true → v.newConfigRecvd = true ∧ drops req = false
  clearing : clears evt = true → v.answered ≤ v.config.seq

/-- Nothing in the cache has been rejected. -/
structure Clean (v : View) : Prop where
  not_stuck : v.rejected = false
  not_torn : ∀ again ∈ v.tornDown, again = false

section Pcs

variable {v : View} {req req' : ReqPc} {evt evt' : EvtPc}

/-- A request that has nothing to do with configurations. -/
theorem Newest.plain_req (h : Newest v req evt) (hPlain : config req' = none)
    (hOld : config req = none) : Newest v req' evt := by
  have hCopies : copies req = false := by cases req <;> first | rfl | cases hOld
  refine { h with current := ?_, full := fun hRecvd _ => h.full hRecvd hCopies, copying := ?_
                  copied := ?_, dropping := ?_, applying := fun hApplies => ?_ }
  · intro c hc
    cases hPlain.symm.trans hc
  · rintro c rfl
    cases hPlain
  · rintro c rfl
    cases hPlain
  · rintro c rfl
    cases hPlain
  · refine ⟨(h.applying hApplies).1, ?_⟩
    cases req' <;> first | rfl | cases hPlain

/-- The event loop is not between its test and the call, nor between the call and the flag. -/
theorem Newest.plain_evt (h : Newest v req evt) (hApplies : applies evt' = false)
    (hClears : clears evt' = false) : Newest v req evt' :=
  { h with applying := fun hTrue => Bool.noConfusion (hApplies.symm.trans hTrue)
           clearing := fun hTrue => Bool.noConfusion (hClears.symm.trans hTrue) }

end Pcs

/-! ## What the driver changes -/

section Frame

variable {cfg : Config} {s s' : State}

theorem espWifiConnect_config (d : Driver) (ret : EspErr) :
    (espWifiConnect d ret).config = d.config := by
  unfold espWifiConnect
  split <;> rfl

theorem leave_config (d : Driver) : (leave d).config = d.config := by
  unfold leave
  (repeat' split) <;> rfl

theorem espWifiDisconnect_config (d : Driver) (now : Bool) :
    (espWifiDisconnect d now).config = d.config := by
  unfold espWifiDisconnect
  split
  · exact leave_config d
  · rfl

theorem associate_config {d d' : Driver} (h : associate d = some d') : d'.config = d.config := by
  simp only [associate, Option.ite_none_right_eq_some] at h
  cases h.2
  rfl

/-- Only the configuration of the driver is seen. -/
theorem view_driver {d : Driver} (hConfig : d.config = s.driver.config) :
    view { s with driver := d } = view s := by
  unfold view
  rw [hConfig]

theorem view_autoReconnect (s : State) (ret : EspErr) :
    view (autoReconnect cfg s ret) = view s := by
  unfold autoReconnect
  split
  · rfl
  · split
    · exact view_driver (espWifiConnect_config _ ret)
    · rfl

theorem autoReconnect_req (s : State) (ret : EspErr) : (autoReconnect cfg s ret).req = s.req := by
  unfold autoReconnect
  (repeat' split) <;> rfl

theorem espWifiSetConfig_invalid_iff {d : Driver} {c : Provision} {ok : Bool} :
    espWifiSetConfig cfg d c ok = .invalid ↔ d.connecting = false ∧ cfg.valid c.config = false := by
  unfold espWifiSetConfig
  cases d.connecting <;> cases cfg.valid c.config <;> cases ok <;> decide

theorem applyCached_of_ok {ok : Bool}
    (h : espWifiSetConfig cfg s.driver s.newWifiConfig ok = .espOk) :
    applyCached cfg s ok = (applyConfig s s.newWifiConfig, .espOk) := by
  unfold applyCached
  rw [h]

end Frame

/-! ## The task of the requests -/

/-- What is kept of a state. -/
abbrev Kept (s : State) : Prop := Newest (view s) s.req s.evt

section Requests

variable {cfg : Config} {s : State} {r : Results} {c : Provision}

theorem mem_applied {e : Applied} {c : Provision} (h : Kept s) (hSeq : s.answered ≤ c.seq)
    (hMem : e ∈ (applyConfig s c).applied) : e.answered ≤ e.seq := by
  rcases List.mem_append.mp hMem with hOld | hNew
  · exact h.in_order e hOld
  · rw [List.mem_singleton.mp hNew]
    exact hSeq

/-- The driver takes the configuration of a request. -/
theorem kept_setApply (h : Kept s) (hReq : s.req = .setApply c) (hEvt : applies s.evt = false) :
    Kept { applyConfig s c with req := .setClear c } := by
  obtain ⟨hSeq, hMem⟩ := h.current c (by rw [hReq]; rfl)
  have hLe : s.answered ≤ c.seq := hSeq ▸ h.answered
  have hCopies : copies s.req = false := by rw [hReq]; rfl
  exact {
    answered := h.answered
    current := fun c' hc' => by cases hc'; exact ⟨hSeq, hMem⟩
    cached := h.cached
    applied := fun _ => hLe
    in_order := fun e he => mem_applied h hLe he
    whole := hMem
    full := fun hRecvd _ => h.full hRecvd hCopies
    copying := nofun
    copied := nofun
    dropping := fun c' hc' => by cases hc'; rfl
    applying := fun hTrue => Bool.noConfusion (hEvt.symm.trans hTrue)
    clearing := fun _ => hLe }

theorem kept_setCopy (h : Kept s) (hReq : s.req = .setCopy c) :
    Kept { copySsid s c with req := .setCopyRest c } := by
  obtain ⟨hSeq, hMem⟩ := h.current c (by rw [hReq]; rfl)
  exact {
    answered := h.answered
    current := fun c' hc' => by cases hc'; exact ⟨hSeq, hMem⟩
    cached := fun _ => show s.answered ≤ c.seq from hSeq ▸ h.answered
    applied := h.applied
    in_order := h.in_order
    whole := h.whole
    full := fun _ hCopies => Bool.noConfusion (show true = false from hCopies)
    copying := fun c' hc' => by cases hc'; rfl
    copied := nofun
    dropping := nofun
    applying := fun hApplies => ⟨(h.applying hApplies).1, rfl⟩
    clearing := h.clearing }

theorem kept_setCopyRest (h : Kept s) (hReq : s.req = .setCopyRest c) :
    Kept { s with newWifiConfig := c, req := .setFlag c } := by
  obtain ⟨hSeq, hMem⟩ := h.current c (by rw [hReq]; rfl)
  exact {
    answered := h.answered
    current := fun c' hc' => by cases hc'; exact ⟨hSeq, hMem⟩
    cached := fun _ => show s.answered ≤ c.seq from hSeq ▸ h.answered
    applied := h.applied
    in_order := h.in_order
    whole := h.whole
    full := fun _ _ => hMem
    copying := nofun
    copied := fun c' hc' => by cases hc'; rfl
    dropping := nofun
    applying := fun hApplies => ⟨(h.applying hApplies).1, rfl⟩
    clearing := h.clearing }

/-- The configuration is in the cache, and the host is answered. -/
theorem kept_setFlag (h : Kept s) (hReq : s.req = .setFlag c) (hEvt : clears s.evt = false) :
    Kept { answerConfig s c with newConfigRecvd := true } := by
  obtain ⟨hSeq, hMem⟩ := h.current c (by rw [hReq]; rfl)
  have hCache : s.newWifiConfig = c := h.copied c hReq
  exact {
    answered := Nat.le_of_eq hSeq
    current := nofun
    cached := fun _ => Nat.le_of_eq (congrArg Provision.seq hCache.symm)
    applied := nofun
    in_order := h.in_order
    whole := h.whole
    full := fun _ _ => show s.newWifiConfig ∈ s.provided from hCache ▸ hMem
    copying := nofun
    copied := nofun
    dropping := nofun
    applying := fun _ => ⟨rfl, rfl⟩
    clearing := fun hTrue => Bool.noConfusion (hEvt.symm.trans hTrue) }

/-- The driver has the configuration, and the host is answered. -/
theorem kept_setClear (h : Kept s) (hReq : s.req = .setClear c) :
    Kept { answerConfig s c with newConfigRecvd := false } := by
  obtain ⟨hSeq, -⟩ := h.current c (by rw [hReq]; rfl)
  have hConfig : s.driver.config = c := h.dropping c hReq
  have hLe : c.seq ≤ s.driver.config.seq := Nat.le_of_eq (congrArg Provision.seq hConfig.symm)
  have hEvt : applies s.evt = false := by
    by_contra hTrue
    rw [Bool.not_eq_false] at hTrue
    have hDrops := (h.applying hTrue).2
    rw [hReq] at hDrops
    cases hDrops
  exact {
    answered := Nat.le_of_eq hSeq
    current := nofun
    cached := nofun
    applied := fun _ => hLe
    in_order := h.in_order
    whole := h.whole
    full := nofun
    copying := nofun
    copied := nofun
    dropping := nofun
    applying := fun hTrue => Bool.noConfusion (hEvt.symm.trans hTrue)
    clearing := fun _ => hLe }

/-- A request goes on without a look at the cache. -/
theorem kept_next {pc : ReqPc} (h : Kept s) (hNext : config pc = config s.req)
    (hCopies : copies s.req = false) (hPc : copies pc = false) (hDrops : drops pc = false)
    (hFlag : ∀ c, pc ≠ .setFlag c) : Kept { s with req := pc } :=
  { h with
    current := fun c hc => h.current c (hNext.symm.trans hc)
    full := fun hRecvd _ => h.full hRecvd hCopies
    copying := fun c hc => by
      have hPc' : copies pc = false := hPc
      rw [show pc = .setCopyRest c from hc] at hPc'
      cases hPc'
    copied := fun c hc => absurd hc (hFlag c)
    dropping := fun c hc => by
      have hDrops' : drops pc = false := hDrops
      rw [show pc = .setClear c from hc] at hDrops'
      cases hDrops'
    applying := fun hApplies => ⟨(h.applying hApplies).1, hDrops⟩ }

/-- A connect or disconnect request goes on. -/
theorem kept_plain {t : State} (h : Kept s) (hView : view t = view s) (hEvt : t.evt = s.evt)
    (hOld : config s.req = none) (hPc : config t.req = none) : Kept t := by
  unfold Kept
  rw [hView, hEvt]
  exact h.plain_req hPc hOld

theorem kept_reqExec (h : Kept s) (hAccepted : Accepted cfg s (.req r)) :
    Kept (reqExec cfg s r s.req) := by
  simp only [Accepted] at hAccepted
  cases hReq : s.req with
  | idle => exact h
  | setTest c =>
    refine kept_next h ?_ ?_ ?_ ?_ ?_
    all_goals first
      | (rw [hReq]; split <;> rfl)
      | (rw [hReq]; rfl)
      | (split <;> rfl)
      | (intro c'; split <;> nofun)
  | setApply c =>
    rw [hReq] at hAccepted
    simp only [reqExec]
    split
    · exact kept_setApply h hReq hAccepted
    all_goals
      refine kept_next h ?_ ?_ rfl rfl nofun
      all_goals
        rw [hReq]
        rfl
  | setCopy c => exact kept_setCopy h hReq
  | setCopyRest c => exact kept_setCopyRest h hReq
  | setFlag c =>
    rw [hReq] at hAccepted
    exact kept_setFlag h hReq hAccepted
  | setClear c => exact kept_setClear h hReq
  | connectGet =>
    have hOld : config s.req = none := by rw [hReq]; rfl
    simp only [reqExec]
    (repeat' split) <;> exact kept_plain h rfl rfl hOld rfl
  | connectTest =>
    refine kept_plain h rfl rfl (by rw [hReq]; rfl) ?_
    simp only [reqExec]
    split <;> rfl
  | connectMark => exact kept_plain h rfl rfl (by rw [hReq]; rfl) rfl
  | connectCall =>
    have hOld : config s.req = none := by rw [hReq]; rfl
    have hView : view { s with driver := espWifiConnect s.driver r.connectRet } = view s :=
      view_driver (espWifiConnect_config _ _)
    simp only [reqExec]
    split
    · exact kept_plain h hView rfl hOld rfl
    · exact kept_plain h hView rfl hOld rfl
  | connectFailed ret => exact kept_plain h rfl rfl (by rw [hReq]; rfl) rfl
  | connectSend => exact kept_plain h rfl rfl (by rw [hReq]; rfl) rfl
  | disconnect =>
    have hView (now : Bool) : view { s with driver := espWifiDisconnect s.driver now } = view s :=
      view_driver (espWifiDisconnect_config _ now)
    exact kept_plain h (hView _) rfl (by rw [hReq]; rfl) rfl

/-- A request is taken. -/
theorem kept_serve {pc : ReqPc} {t : State} (h : Kept s) (hPc : config pc = none)
    (hServe : serve s pc = some t) : Kept t := by
  simp only [serve, Option.ite_none_right_eq_some] at hServe
  obtain ⟨hIdle, hEq⟩ := hServe
  cases hEq
  exact kept_plain h rfl rfl (by rw [hIdle]; rfl) hPc

/-- A configuration comes in. -/
theorem kept_setConfig {new : WifiConfig} {t : State} (h : Kept s)
    (hStep : step cfg s (.setConfig new) = some t) : Kept t := by
  obtain ⟨u, hServe, rfl⟩ := Option.map_eq_some_iff.mp hStep
  simp only [serve, Option.ite_none_right_eq_some] at hServe
  obtain ⟨hIdle, hEq⟩ := hServe
  cases hEq
  have hCopies : copies s.req = false := by rw [hIdle]; rfl
  exact {
    answered := Nat.le_succ_of_le h.answered
    current := fun c hc => by cases hc; exact ⟨rfl, List.mem_append_right _ List.mem_cons_self⟩
    cached := h.cached
    applied := h.applied
    in_order := h.in_order
    whole := List.mem_append_left _ h.whole
    full := fun hRecvd _ => List.mem_append_left _ (h.full hRecvd hCopies)
    copying := nofun
    copied := nofun
    dropping := nofun
    applying := fun hApplies => ⟨(h.applying hApplies).1, rfl⟩
    clearing := h.clearing }

end Requests

/-! ## The event loop -/

section Events

variable {cfg : Config} {s t : State} {r : Results} {ok : Bool}

/-- A step that concerns neither the cached configuration nor the one of the driver. -/
theorem kept_frame (h : Kept s) (hView : view t = view s) (hReq : t.req = s.req)
    (hApplies : applies t.evt = false) (hClears : clears t.evt = false) : Kept t := by
  unfold Kept
  rw [hView, hReq]
  exact h.plain_evt hApplies hClears

/-- The event loop finds `new_config_recvd` set. -/
theorem kept_found {pc : EvtPc} (h : Kept s) (hRecvd : s.newConfigRecvd = true)
    (hDrops : drops s.req = false) (hClears : clears pc = false) : Kept { s with evt := pc } :=
  { h with applying := fun _ => ⟨hRecvd, hDrops⟩
           clearing := fun hTrue => Bool.noConfusion (hClears.symm.trans hTrue) }

/-- The driver takes the cached configuration. -/
theorem kept_applyConfig (h : Kept s) (hEvt : applies s.evt = true)
    (hCopies : copies s.req = false) : Kept (applyConfig s s.newWifiConfig) := by
  obtain ⟨hRecvd, hDrops⟩ := h.applying hEvt
  have hLe : s.answered ≤ s.newWifiConfig.seq := h.cached hRecvd
  exact { h with
    applied := fun _ => hLe
    in_order := fun e he => mem_applied h hLe he
    whole := h.full hRecvd hCopies
    dropping := fun c hc => by
      rw [show s.req = .setClear c from hc] at hDrops
      cases hDrops
    clearing := fun _ => hLe }

/-- The call for the cached configuration; `pc` is where the event loop goes on. -/
theorem kept_applyCached {pc : EvtPc} (h : Kept s) (hEvt : applies s.evt = true)
    (hCopies : copies s.req = false) (hApplies : applies pc = false)
    (hClears : clears pc = true → (applyCached cfg s ok).2 = .espOk) :
    Kept { (applyCached cfg s ok).1 with evt := pc } := by
  have hNo : applies pc = true → False := fun hTrue => Bool.noConfusion (hApplies.symm.trans hTrue)
  unfold applyCached at hClears ⊢
  split at hClears
  · have hApplied : Kept (applyConfig s s.newWifiConfig) := kept_applyConfig h hEvt hCopies
    exact { hApplied with applying := fun hTrue => (hNo hTrue).elim
                          clearing := fun _ => h.cached (h.applying hEvt).1 }
  · exact { h with applying := fun hTrue => (hNo hTrue).elim
                   clearing := fun hTrue => nomatch hClears hTrue }
  · exact { h with applying := fun hTrue => (hNo hTrue).elim
                   clearing := fun hTrue => nomatch hClears hTrue }

theorem kept_evtExec (h : Kept s) (hAccepted : Accepted cfg s (.evt r)) :
    Kept (evtExec cfg s r s.evt) := by
  simp only [Accepted] at hAccepted
  cases hEvt : s.evt with
  | idle => exact h
  | connTest link =>
    rw [hEvt] at hAccepted
    simp only [evtExec]
    split
    · rename_i hRecvd
      have hFound : Kept { s with evt := .connApply } :=
        kept_found h hRecvd (hAccepted hRecvd) rfl
      exact { hFound with }
    · exact kept_frame h rfl rfl rfl rfl
  | connApply =>
    rw [hEvt] at hAccepted
    exact kept_applyCached h (by rw [hEvt]; rfl) hAccepted.1 rfl nofun
  | connDisconnect =>
    have hView : view { s with driver := espWifiDisconnect s.driver r.disconnectNow } = view s :=
      view_driver (espWifiDisconnect_config _ _)
    exact kept_frame h hView rfl rfl rfl
  | connSuppress => exact kept_frame h rfl rfl rfl rfl
  | connReset link => exact kept_frame h rfl rfl rfl rfl
  | connSend link => exact kept_frame h rfl rfl rfl rfl
  | connKeep link => exact kept_frame h rfl rfl rfl rfl
  | connDone => exact kept_frame h rfl rfl rfl rfl
  | discTest link =>
    rw [hEvt] at hAccepted
    by_cases hRecvd : s.newConfigRecvd = true
    · simp only [evtExec, if_pos hRecvd]
      exact kept_found h hRecvd (hAccepted hRecvd) rfl
    · simp only [evtExec, if_neg hRecvd]
      exact kept_frame h rfl rfl rfl rfl
  | discApply link =>
    rw [hEvt] at hAccepted
    have hApplies : applies s.evt = true := by rw [hEvt]; rfl
    simp only [evtExec]
    split
    · rename_i hOk
      exact kept_applyCached h hApplies hAccepted.1 rfl fun _ => hOk
    · exact kept_applyCached h hApplies hAccepted.1 rfl nofun
  | discClear link =>
    have hLe : s.answered ≤ s.driver.config.seq := h.clearing (by rw [hEvt]; rfl)
    exact { h with cached := nofun
                   applied := fun _ => hLe
                   full := nofun
                   applying := nofun
                   clearing := nofun }
  | discDown link reconnectPending => exact kept_frame h rfl rfl rfl rfl
  | discMark link reconnectPending =>
    refine kept_frame h rfl rfl ?_ ?_
    all_goals
      simp only [evtExec]
      split <;> rfl
  | discConnect link => exact kept_frame h (view_driver (espWifiConnect_config _ _)) rfl rfl rfl
  | discCheck link =>
    refine kept_frame h rfl rfl ?_ ?_
    all_goals
      simp only [evtExec]
      split <;> rfl
  | discSend link => exact kept_frame h rfl rfl rfl rfl
  | discAuto =>
    have hView : view (autoReconnect cfg s r.connectRet) = view s := view_autoReconnect s _
    exact kept_frame h hView (autoReconnect_req s r.connectRet) rfl rfl
  | discUnsuppress link => exact kept_frame h rfl rfl rfl rfl
  | startTest =>
    refine kept_frame h rfl rfl ?_ ?_
    all_goals
      simp only [evtExec]
      (repeat' split) <;> rfl
  | startMark => exact kept_frame h rfl rfl rfl rfl
  | startConnect => exact kept_frame h (view_driver (espWifiConnect_config _ _)) rfl rfl rfl
  | startSend => exact kept_frame h rfl rfl rfl rfl
  | stopMark => exact kept_frame h rfl rfl rfl rfl
  | stopSend => exact kept_frame h rfl rfl rfl rfl

theorem kept_takeEvent {e : DriverEvent} {rest : List DriverEvent} (h : Kept s) :
    Kept (takeEvent { s with driver := { s.driver with pending := rest } } e) := by
  cases e <;> exact kept_frame h rfl rfl rfl rfl

end Events

/-! ## One step -/

section Steps

variable {cfg : Config} {s s' : State} {a : Action} {r : Results}

theorem newest_step (h : Kept s) (hAccepted : Accepted cfg s a) (hStep : step cfg s a = some s') :
    Kept s' := by
  cases a with
  | setConfig config => exact kept_setConfig h hStep
  | wifiConnect => exact kept_serve h rfl hStep
  | wifiDisconnect => exact kept_serve h rfl hStep
  | req r =>
    simp only [step, Option.ite_none_left_eq_some] at hStep
    cases hStep.2
    exact kept_reqExec h hAccepted
  | dhcpTest =>
    simp only [step, Option.ite_none_left_eq_some] at hStep
    cases hStep.2
    exact h
  | dhcpSend =>
    simp only [step, Option.ite_none_right_eq_some] at hStep
    cases hStep.2
    exact h
  | associate =>
    obtain ⟨d, hAssociate, rfl⟩ := Option.map_eq_some_iff.mp hStep
    have hView : view { s with driver := d } = view s := view_driver (associate_config hAssociate)
    exact (congrArg (Newest · s.req s.evt) hView).mpr h
  | leave =>
    cases hStep
    have hView : view { s with driver := leave s.driver } = view s := view_driver (leave_config _)
    exact (congrArg (Newest · s.req s.evt) hView).mpr h
  | start =>
    cases hStep
    exact h
  | stop =>
    cases hStep
    have hView : view { s with driver := post (leave s.driver) .staStop } = view s :=
      view_driver (leave_config _)
    exact (congrArg (Newest · s.req s.evt) hView).mpr h
  | take =>
    simp only [step, Option.ite_none_right_eq_some] at hStep
    obtain ⟨-, hStep⟩ := hStep
    split at hStep
    · cases hStep
    · cases hStep
      exact kept_takeEvent h
  | evt r =>
    simp only [step, Option.ite_none_left_eq_some] at hStep
    cases hStep.2
    exact kept_evtExec h hAccepted

/-- The ghost fields of a rejection stay as they are. -/
theorem Clean.of_eq {t : State} (h : Clean (view s)) (hRejected : t.rejected = s.rejected)
    (hTorn : t.tornDown = s.tornDown) : Clean (view t) := by
  refine ⟨hRejected.trans h.not_stuck, fun again hMem => h.not_torn again ?_⟩
  exact (congrArg (again ∈ ·) hTorn).mp hMem

theorem clean_reqExec (h : Clean (view s)) : Clean (view (reqExec cfg s r s.req)) := by
  cases s.req with
  | setApply c =>
    simp only [reqExec]
    split <;> exact h.of_eq rfl rfl
  | setFlag c => exact ⟨rfl, h.not_torn⟩
  | setClear c => exact ⟨rfl, h.not_torn⟩
  | connectGet =>
    simp only [reqExec]
    (repeat' split) <;> exact h.of_eq rfl rfl
  | connectCall =>
    simp only [reqExec]
    split <;> exact h.of_eq rfl rfl
  | _ => exact h.of_eq rfl rfl

/-- A cached configuration that is valid is not rejected. -/
theorem clean_applyCached {ok : Bool} (h : Clean (view s))
    (hValid : s.driver.connecting = false → cfg.valid s.newWifiConfig.config = true) :
    Clean (view (applyCached cfg s ok).1) := by
  unfold applyCached
  split
  · exact h.of_eq rfl rfl
  · rename_i hInvalid
    obtain ⟨hConnecting, hNot⟩ := espWifiSetConfig_invalid_iff.mp hInvalid
    rw [hValid hConnecting] at hNot
    cases hNot
  · exact h

theorem clean_evtExec (h : Clean (view s)) (hAccepted : Accepted cfg s (.evt r)) :
    Clean (view (evtExec cfg s r s.evt)) := by
  simp only [Accepted] at hAccepted
  cases hEvt : s.evt with
  | connTest link =>
    simp only [evtExec]
    split
    · refine ⟨h.not_stuck, fun again hMem => ?_⟩
      rcases List.mem_append.mp hMem with hOld | hNew
      · exact h.not_torn again hOld
      · rw [List.mem_singleton.mp hNew]
        exact h.not_stuck
    · exact h.of_eq rfl rfl
  | connApply =>
    rw [hEvt] at hAccepted
    exact (clean_applyCached h hAccepted.2).of_eq rfl rfl
  | discApply link =>
    rw [hEvt] at hAccepted
    exact (clean_applyCached h hAccepted.2).of_eq rfl rfl
  | discAuto =>
    have hView : view (autoReconnect cfg s r.connectRet) = view s := view_autoReconnect s _
    exact (congrArg Clean hView).mpr h
  | _ => exact h.of_eq rfl rfl

theorem clean_step (h : Clean (view s)) (hAccepted : Accepted cfg s a)
    (hStep : step cfg s a = some s') : Clean (view s') := by
  cases a with
  | setConfig config =>
    obtain ⟨t, hServe, rfl⟩ := Option.map_eq_some_iff.mp hStep
    simp only [serve, Option.ite_none_right_eq_some] at hServe
    cases hServe.2
    exact h.of_eq rfl rfl
  | req r =>
    simp only [step, Option.ite_none_left_eq_some] at hStep
    cases hStep.2
    exact clean_reqExec h
  | evt r =>
    simp only [step, Option.ite_none_left_eq_some] at hStep
    cases hStep.2
    exact clean_evtExec h hAccepted
  | associate =>
    obtain ⟨d, -, rfl⟩ := Option.map_eq_some_iff.mp hStep
    exact h.of_eq rfl rfl
  | take =>
    simp only [step, Option.ite_none_right_eq_some] at hStep
    obtain ⟨-, hStep⟩ := hStep
    split at hStep
    · cases hStep
    · rename_i e rest hPending
      cases hStep
      cases e <;> exact h.of_eq rfl rfl
  | wifiConnect | wifiDisconnect | dhcpSend =>
    simp only [step, serve, Option.ite_none_right_eq_some] at hStep
    cases hStep.2
    exact h.of_eq rfl rfl
  | dhcpTest =>
    simp only [step, Option.ite_none_left_eq_some] at hStep
    cases hStep.2
    exact h.of_eq rfl rfl
  | leave | start | stop =>
    cases hStep
    exact h.of_eq rfl rfl

/-- The event loop takes a link event and looks for a cached configuration. -/
theorem take_tests (cfg : Config) {e : DriverEvent} {rest : List DriverEvent}
    (hIdle : s.evt = .idle) (hPending : s.driver.pending = e :: rest)
    (hLink : isLinkEvent e = true) :
    ∃ t, step cfg s .take = some t ∧ ((∃ link, t.evt = .connTest link) ∨
      ∃ link, t.evt = .discTest link) ∧ t.newConfigRecvd = s.newConfigRecvd ∧
      t.newWifiConfig = s.newWifiConfig ∧ t.driver = { s.driver with pending := rest } := by
  refine ⟨_, step_take hIdle hPending, ?_⟩
  cases e with
  | staConnected link => exact ⟨.inl ⟨link, rfl⟩, rfl, rfl, rfl⟩
  | staDisconnected link => exact ⟨.inr ⟨link, rfl⟩, rfl, rfl, rfl⟩
  | staStart => cases hLink
  | staStop => cases hLink

/-- It finds the configuration. -/
theorem test_applies (cfg : Config) (r : Results)
    (hEvt : (∃ link, s.evt = .connTest link) ∨ ∃ link, s.evt = .discTest link)
    (hRecvd : s.newConfigRecvd = true) :
    ∃ t, step cfg s (.evt r) = some t ∧ applies t.evt = true ∧
      t.newWifiConfig = s.newWifiConfig ∧ t.driver = s.driver := by
  rcases hEvt with ⟨link, hEvt⟩ | ⟨link, hEvt⟩
  · refine ⟨_, step_evt hEvt nofun, ?_⟩
    simp [evtExec, hRecvd, applies]
  · refine ⟨_, step_evt hEvt nofun, ?_⟩
    simp [evtExec, hRecvd, applies]

/-- The driver takes it. -/
theorem apply_applies (hEvt : applies s.evt = true)
    (hOk : espWifiSetConfig cfg s.driver s.newWifiConfig r.setOk = .espOk) :
    ∃ t, step cfg s (.evt r) = some t ∧ t.driver.config = s.newWifiConfig := by
  cases hPc : s.evt with
  | connApply =>
    refine ⟨_, step_evt hPc nofun, ?_⟩
    simp [evtExec, applyCached_of_ok hOk, applyConfig]
  | discApply link =>
    refine ⟨_, step_evt hPc nofun, ?_⟩
    simp [evtExec, applyCached_of_ok hOk, applyConfig]
  | _ =>
    rw [hPc] at hEvt
    cases hEvt

/-- A link event gives the cached configuration to a driver that takes it. -/
theorem take_applies {e : DriverEvent} {rest : List DriverEvent}
    (hRecvd : s.newConfigRecvd = true) (hIdle : s.evt = .idle)
    (hPending : s.driver.pending = e :: rest) (hLink : isLinkEvent e = true)
    (hOk : espWifiSetConfig cfg s.driver s.newWifiConfig r.setOk = .espOk) :
    ∃ s', run (step cfg) s [.take, .evt r, .evt r] = some s' ∧
      s'.driver.config = s.newWifiConfig := by
  obtain ⟨t, hTake, hTests, hFlag, hCache, hDriver⟩ :=
    take_tests cfg hIdle hPending hLink
  obtain ⟨u, hTest, hApplies, hCache', hDriver'⟩ :=
    test_applies cfg r hTests (hFlag.trans hRecvd)
  have hOk' : espWifiSetConfig cfg u.driver u.newWifiConfig r.setOk = .espOk := by
    rw [hDriver', hDriver, hCache', hCache]
    exact hOk
  obtain ⟨v, hApply, hConfig⟩ := apply_applies hApplies hOk'
  refine ⟨v, ?_, hConfig.trans (hCache'.trans hCache)⟩
  simp only [run, hTake, hTest, hApply, Option.bind_some]

theorem boot_kept (config : WifiConfig) : Kept (boot config) :=
  ⟨Nat.le_refl _, nofun, nofun, fun _ => Nat.le_refl _, nofun, List.mem_cons_self, nofun, nofun,
    nofun, nofun, nofun, nofun⟩

/-- As long as the cached configurations that the event loop finds are valid, and neither task comes
in between the test, the call and the flag of the other, configurations are applied in order and the
newest is applied or cached. -/
theorem settled {config : WifiConfig} (hRun : Reaches (step cfg) (Accepted cfg) (boot config) s) :
    Settled cfg s := by
  have hBoth : Kept s ∧ Clean (view s) :=
    hRun.invariant (I := fun s => Kept s ∧ Clean (view s))
      ⟨boot_kept config, rfl, nofun⟩ fun _ _ _ ⟨hKept, hClean⟩ hAccepted hStep =>
        ⟨newest_step hKept hAccepted hStep, clean_step hClean hAccepted hStep⟩
  obtain ⟨hKept, hClean⟩ := hBoth
  refine ⟨hKept.in_order, ?_, hKept.whole, hKept.full, ?_, hClean.not_stuck, hClean.not_torn⟩
  · cases hRecvd : s.newConfigRecvd
    · exact .inl (hKept.applied hRecvd)
    · exact .inr ⟨rfl, hKept.cached hRecvd⟩
  · intro e rest r hRecvd hIdle hPending hLink hOk
    exact take_applies hRecvd hIdle hPending hLink hOk

end Steps

/-- The driver takes every configuration but those with nothing beside the SSID. -/
def plain : Config :=
  { valid := fun c => !c.rest.isEmpty, autoConnectOnStaStart := false
    autoConnectOnStaDisconnect := false, autoReconnectMaxRetry := 0 }

def home : WifiConfig := ⟨[104], [1]⟩

def office : WifiConfig := ⟨[111], [2]⟩

def broken : WifiConfig := ⟨[120], []⟩

/-- A configuration comes while the station connects: the new link is taken down, and the station
connects again with it. -/
theorem settled_office :
    ∃ s, Reaches (step plain) (Accepted plain) (boot home) s ∧
      s.driver.config.config = office ∧ s.stationConnected = true ∧ Settled plain s := by
  obtain ⟨s, hs, hOut⟩ := Option.map_eq_some_iff.mp
    (show (runGuarded (step plain) (Accepted plain) (boot home) (List.flatten [[.wifiConnect],
      reqs 4, [.setConfig office], reqs 2, [.associate], reqs 2, [.take], evts 4, [.take], evts 8,
      [.associate, .take], evts 5])).map (fun s => (s.driver.config.config, s.stationConnected)) =
        some (office, true) by decide +kernel)
  obtain ⟨hConfig, hConnected⟩ := Prod.mk.inj hOut
  exact ⟨s, .of_run hs, hConfig, hConnected, settled (.of_run hs)⟩

/-- A configuration that the driver rejects is answered with `ESP_OK` and stays cached: the first
link is taken down for it, and so is the next. -/
theorem not_settled :
    ¬ ∀ s, Reaches (step plain) anyStep (boot home) s → Settled plain s := by
  intro h
  obtain ⟨s, hs, hTorn⟩ := Option.map_eq_some_iff.mp
    (show (run (step plain) (boot home) (List.flatten [[.setConfig broken], reqs 5,
      [.wifiConnect], reqs 4, [.associate, .take], evts 4, [.take], evts 6, [.wifiConnect], reqs 4,
      [.associate, .take], evts 4])).map State.tornDown = some [false, true] by decide +kernel)
  have hNot := (h s (.of_plain_run hs)).not_torn true (by rw [hTorn]; decide)
  cases hNot

/-- The event loop has given `home` to the driver and is about to clear `new_config_recvd` when
`office` comes: it is answered `ESP_OK` and lost. -/
example : (run (step plain) (boot home) (List.flatten [[.wifiConnect], reqs 4, [.setConfig home],
    reqs 4, [.leave, .take], evts 2, [.setConfig office], reqs 4, evts 1])).map (fun s =>
      (s.answered, s.driver.config.seq, s.newConfigRecvd)) = some (2, 1, false) := by decide +kernel

end EspHosted.Wifi.StaConfig
