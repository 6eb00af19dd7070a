import EspHosted.Lib.Machine
import EspHosted.Lib.Trace

/-!
# Wi-Fi events at the host

`rpc_event_callback` posts the events of the co-processor to the host. The co-processor repeats
start and connected events on purpose, and three flags filter them: `netif_started` and
`netif_connected`, which `rpc_start` clears, and `softap_started`, which only an AP stop clears.

The trace of a run lists the calls of `rpc_start` and `rpc_stop` and the events received, each
with what was posted for it. A link, as the host sees it, lasts until a disconnected event, a
station stop or an `rpc_start`.

* `flags_step`: every flag says that its start event is the last that was posted;
* `gated_step_iff`: a step leaves the posted events well bracketed exactly when it satisfies
  `Seen`: the first AP start after an `rpc_start` finds `softap_started` clear, and a station
  start finds no connected event that was dropped because it came too early;
* `well_bracketed`: so it is in every run of such steps.
-/

namespace EspHosted.Wifi.HostEvents

open Machine Trace

/-! ## Model -/

/-- `h_event_id` of an event without arguments. -/
inductive WifiEventId
  | staStart
  | staStop
  | apStart
  | apStop
  | homeChannelChange
  | other
  deriving DecidableEq

/-- Events that are posted as they are. -/
inductive PassedEvent
  | staItwtSetup
  | staItwtTeardown
  | staItwtSuspend
  | staItwtProbe
  | wifiDppUriReady
  | wifiDppCfgRecvd
  | wifiDppFail
  | staScanDone
  deriving DecidableEq

/-- A parsed event. `unposted` is any other message, which is dropped, logged or queued for the
supplicant. -/
inductive Event
  | espInit (cpResetReason : Nat)
  | heartbeat (hbNum : Nat)
  | memMonitor (memInfo : List Nat)
  | apStaConnected (mac : List UInt8)
  | apStaDisconnected (mac : List UInt8)
  | staConnected (event : List UInt8)
  | staDisconnected (event : List UInt8)
  | passed (id : PassedEvent) (event : List UInt8)
  | wifiEventNoArgs (hEventId : WifiEventId)
  | unposted
  deriving DecidableEq

/-- What is posted, or the connect request of `H_WIFI_AUTO_CONNECT_ON_STA_START`. -/
inductive Output
  | cpInit (reason : Nat)
  | cpHeartbeat (heartbeat : Nat)
  | memMonitor (memInfo : List Nat)
  | apStaConnected (mac : List UInt8)
  | apStaDisconnected (mac : List UInt8)
  | staConnected (event : List UInt8)
  | staDisconnected (event : List UInt8)
  | passed (id : PassedEvent) (event : List UInt8)
  | wifi (hEventId : WifiEventId)
  | wifiConnectAsync
  deriving DecidableEq

/-- An observation: `rpc_start`, `rpc_stop`, or an event with what was posted for it. -/
inductive Obs
  | rpcStart
  | rpcStop
  | received (e : Event) (out : List Output)
  deriving DecidableEq

structure Config where
  autoConnectOnStaStart : Bool

/-- `apFresh`: no AP start has come since the last `rpc_start`. `announced`: a connected event has
come since the last disconnected event; `seen`: one of them found `netif_started` set. -/
structure State where
  netifStarted : Bool
  netifConnected : Bool
  softapStarted : Bool
  apFresh : Bool
  announced : Bool
  seen : Bool
  trace : List Obs

def boot : State :=
  { netifStarted := false, netifConnected := false, softapStarted := false, apFresh := false,
    announced := false, seen := false, trace := [] }

/-- `h_mac_is_nonzero`. -/
def hMacIsNonzero (mac : List UInt8) : Bool := mac.any (· ≠ 0)

/-- `is_wifi_netif_started`, left to the port. -/
def isWifiNetifStarted : Bool := false

/-- `WifiEventNoArgs`. -/
def wifiEventNoArgs (cfg : Config) (s : State) : WifiEventId → State × List Output
  | .staStart =>
    if !s.netifStarted && !isWifiNetifStarted then
      ({ s with netifStarted := true },
        .wifi .staStart :: if cfg.autoConnectOnStaStart then [.wifiConnectAsync] else [])
    else (s, [])
  | .staStop => ({ s with netifStarted := false, netifConnected := false }, [.wifi .staStop])
  | .apStart =>
    if !s.softapStarted && !isWifiNetifStarted then
      ({ s with softapStarted := true }, [.wifi .apStart])
    else (s, [])
  | .apStop => ({ s with softapStarted := false }, [.wifi .apStop])
  | .homeChannelChange => (s, [.wifi .homeChannelChange])
  | .other => (s, [])

def rpcEventCallback (cfg : Config) (s : State) : Event → State × List Output
  | .espInit reason => (s, [.cpInit reason])
  | .heartbeat hbNum => (s, [.cpHeartbeat hbNum])
  | .memMonitor memInfo => (s, [.memMonitor memInfo])
  | .apStaConnected mac => (s, if hMacIsNonzero mac then [.apStaConnected mac] else [])
  | .apStaDisconnected mac => (s, if hMacIsNonzero mac then [.apStaDisconnected mac] else [])
  | .staConnected e =>
    if !s.netifConnected && s.netifStarted then
      ({ s with netifConnected := true }, [.staConnected e])
    else (s, [])
  | .staDisconnected e => ({ s with netifConnected := false }, [.staDisconnected e])
  | .passed id e => (s, [.passed id e])
  | .wifiEventNoArgs id => wifiEventNoArgs cfg s id
  | .unposted => (s, [])

/-- What the history of received events says; the callback does not read it. -/
def note (s : State) : Event → State
  | .wifiEventNoArgs .apStart => { s with apFresh := false }
  | .staConnected _ => { s with announced := true, seen := s.seen || s.netifStarted }
  | .staDisconnected _ => { s with announced := false, seen := false }
  | _ => s

inductive Action
  | rpcStart
  | rpcStop
  | receive (e : Event)
  deriving DecidableEq

def step (cfg : Config) (s : State) : Action → Option State
  | .rpcStart => some { s with netifStarted := false, netifConnected := false, apFresh := true
                               trace := s.trace ++ [.rpcStart] }
  | .rpcStop => some { s with trace := s.trace ++ [.rpcStop] }
  | .receive e =>
    let r := rpcEventCallback cfg (note s e) e
    some { r.1 with trace := r.1.trace ++ [.received e r.2] }

/-! ## What is kept -/

@[simp]
def posts (p : Output → Bool) : Obs → Bool
  | .received _ out => out.any p
  | _ => false

@[simp]
def receives (p : Event → Bool) : Obs → Bool
  | .received e _ => p e
  | _ => false

@[simp]
def isRpcStart (o : Obs) : Bool := o == .rpcStart

@[simp]
def postsWifi (id : WifiEventId) (o : Obs) : Bool := posts (· == .wifi id) o

@[simp]
def receivesWifi (id : WifiEventId) (o : Obs) : Bool := receives (· == .wifiEventNoArgs id) o

@[simp]
def postsConnected (o : Obs) : Bool :=
  posts (fun
    | .staConnected _ => true
    | _ => false) o

@[simp]
def receivesConnected (o : Obs) : Bool :=
  receives (fun
    | .staConnected _ => true
    | _ => false) o

@[simp]
def receivesDisconnected (o : Obs) : Bool :=
  receives (fun
    | .staDisconnected _ => true
    | _ => false) o

/-- A station stop was posted, or the RPC was started again. -/
@[simp]
def endsSta (o : Obs) : Bool := postsWifi .staStop o || isRpcStart o

@[simp]
def endsAp (o : Obs) : Bool := postsWifi .apStop o || isRpcStart o

/-- A link is over. -/
@[simp]
def endsLink (o : Obs) : Bool := receivesDisconnected o || endsSta o

/-- The posted events of the station and of the AP are bracketed, and no event that the host has
to see is dropped. -/
structure WellBracketed (l : List Obs) : Prop where
  sta : Separated (postsWifi .staStart) endsSta l
  ap : Separated (postsWifi .apStart) endsAp l
  connected_once : Separated postsConnected endsLink l
  connected_within : Throughout (fun past o =>
    postsConnected o = true → latched (postsWifi .staStart) endsSta past = true) l
  ap_after_start : Throughout (fun past o => receivesWifi .apStart o = true →
    latched isRpcStart (receivesWifi .apStart) past = true → postsWifi .apStart o = true) l
  connected_seen : Throughout (fun past o => receivesWifi .staStart o = true →
    latched receivesConnected receivesDisconnected past = true →
      latched postsConnected receivesDisconnected (past ++ [o]) = true) l

/-- What an observation has to satisfy with its past. -/
structure Fits (past : List Obs) (o : Obs) : Prop where
  sta : postsWifi .staStart o = true → latched (postsWifi .staStart) endsSta past = false
  ap : postsWifi .apStart o = true → latched (postsWifi .apStart) endsAp past = false
  connected_once : postsConnected o = true → latched postsConnected endsLink past = false
  connected_within : postsConnected o = true → latched (postsWifi .staStart) endsSta past = true
  ap_after_start : receivesWifi .apStart o = true →
    latched isRpcStart (receivesWifi .apStart) past = true → postsWifi .apStart o = true
  connected_seen : receivesWifi .staStart o = true →
    latched receivesConnected receivesDisconnected past = true →
      latched postsConnected receivesDisconnected (past ++ [o]) = true

/-- The first AP start after an `rpc_start` finds `softap_started` clear. A station start comes
only when a connected event since the last disconnected event found `netif_started` set, if there
was any. -/
def Seen (s : State) : Action → Prop
  | .receive (.wifiEventNoArgs .apStart) => s.apFresh = true → s.softapStarted = false
  | .receive (.wifiEventNoArgs .staStart) => s.announced = true → s.seen = true
  | _ => True

instance (s : State) (a : Action) : Decidable (Seen s a) := by
  unfold Seen
  split <;> infer_instance

/-- The flags in terms of the trace. -/
structure Flags (s : State) : Prop where
  netifStarted : s.netifStarted = latched (postsWifi .staStart) endsSta s.trace
  netifConnected : s.netifConnected = latched postsConnected endsLink s.trace
  softapStarted : s.softapStarted = latched (postsWifi .apStart) (postsWifi .apStop) s.trace
  apFresh : s.apFresh = latched isRpcStart (receivesWifi .apStart) s.trace
  announced : s.announced = latched receivesConnected receivesDisconnected s.trace
  seen : s.seen = latched postsConnected receivesDisconnected s.trace

theorem wellBracketed_nil : WellBracketed [] := by
  refine ⟨?_, ?_, ?_, ?_, ?_, ?_⟩
  any_goals rw [separated_iff]
  all_goals exact throughout_nil

theorem wellBracketed_append {l : List Obs} {o : Obs} :
    WellBracketed (l ++ [o]) ↔ WellBracketed l ∧ Fits l o := by
  constructor
  · rintro ⟨hSta, hAp, hOnce, hWithin, hAfter, hSeen⟩
    rw [separated_iff, throughout_append, ← separated_iff] at hSta hAp hOnce
    rw [throughout_append] at hWithin hAfter hSeen
    exact ⟨⟨hSta.1, hAp.1, hOnce.1, hWithin.1, hAfter.1, hSeen.1⟩,
      ⟨hSta.2, hAp.2, hOnce.2, hWithin.2, hAfter.2, hSeen.2⟩⟩
  · rintro ⟨h, hFits⟩
    refine ⟨?_, ?_, ?_, ?_, ?_, ?_⟩
    · rw [separated_iff, throughout_append, ← separated_iff]
      exact ⟨h.sta, hFits.sta⟩
    · rw [separated_iff, throughout_append, ← separated_iff]
      exact ⟨h.ap, hFits.ap⟩
    · rw [separated_iff, throughout_append, ← separated_iff]
      exact ⟨h.connected_once, hFits.connected_once⟩
    · exact throughout_append.mpr ⟨h.connected_within, hFits.connected_within⟩
    · exact throughout_append.mpr ⟨h.ap_after_start, hFits.ap_after_start⟩
    · exact throughout_append.mpr ⟨h.connected_seen, hFits.connected_seen⟩

/-! ## One step -/

section Steps

variable {cfg : Config} {s s' : State} {a : Action}

theorem boot_flags : Flags boot := ⟨rfl, rfl, rfl, rfl, rfl, rfl⟩

theorem Flags.connected_seen (h : Flags s) (hConnected : s.netifConnected = true) :
    s.seen = true := by
  rw [h.netifConnected] at hConnected
  rw [h.seen]
  refine latched_mono (fun o hEnds => ?_) hConnected
  rw [endsLink, hEnds, Bool.true_or]

theorem flags_wifiEventNoArgs {id : WifiEventId} (h : Flags s)
    (hStep : step cfg s (.receive (.wifiEventNoArgs id)) = some s') : Flags s' := by
  obtain ⟨hStarted, hConnected, hSoftap, hFresh, hAnnounced, hSeen⟩ := h
  cases hStep
  cases id with
  | staStart =>
    by_cases hSta : s.netifStarted <;> constructor <;>
      simp_all [rpcEventCallback, wifiEventNoArgs, note, isWifiNetifStarted]
  | apStart =>
    by_cases hAp : s.softapStarted <;> constructor <;>
      simp_all [rpcEventCallback, wifiEventNoArgs, note, isWifiNetifStarted]
  | _ => constructor <;> simp_all [rpcEventCallback, wifiEventNoArgs, note]

/-- A connected event that is dropped although the station is started finds one posted before. -/
theorem flags_staConnected {event : List UInt8} (h : Flags s)
    (hStep : step cfg s (.receive (.staConnected event)) = some s') : Flags s' := by
  have hPosted := h.connected_seen
  obtain ⟨hStarted, hConnected, hSoftap, hFresh, hAnnounced, hSeen⟩ := h
  cases hStep
  by_cases hSta : s.netifStarted <;> by_cases hCon : s.netifConnected <;> constructor <;>
    simp_all [rpcEventCallback, note]

theorem flags_step (h : Flags s) (hStep : step cfg s a = some s') : Flags s' := by
  cases a with
  | receive e =>
    cases e with
    | wifiEventNoArgs id => exact flags_wifiEventNoArgs h hStep
    | staConnected event => exact flags_staConnected h hStep
    | _ =>
      obtain ⟨hStarted, hConnected, hSoftap, hFresh, hAnnounced, hSeen⟩ := h
      cases hStep
      constructor <;> simp_all [rpcEventCallback, note]
  | _ =>
    obtain ⟨hStarted, hConnected, hSoftap, hFresh, hAnnounced, hSeen⟩ := h
    cases hStep
    constructor <;> simp_all

/-- An AP that is up in the brackets of the trace has `softap_started` set. -/
theorem Flags.ap_open (h : Flags s) (hOpen : s.softapStarted = false) :
    latched (postsWifi .apStart) endsAp s.trace = false := by
  by_contra hLatched
  rw [Bool.not_eq_false] at hLatched
  have hEnds : ∀ o, postsWifi .apStop o = true → endsAp o = true :=
    fun o hStop => by rw [endsAp, hStop, Bool.true_or]
  have hStarted := latched_mono hEnds hLatched
  rw [← h.softapStarted, hOpen] at hStarted
  cases hStarted

theorem fits_staStart_iff (cfg : Config) (h : Flags s) :
    Fits s.trace (.received (.wifiEventNoArgs .staStart) (wifiEventNoArgs cfg s .staStart).2) ↔
      Seen s (.receive (.wifiEventNoArgs .staStart)) := by
  constructor
  · intro hFits hAnnounced
    have hPosted := hFits.connected_seen rfl (h.announced ▸ hAnnounced)
    rw [latched_append] at hPosted
    rw [h.seen]
    by_cases hSta : s.netifStarted <;>
      simpa [wifiEventNoArgs, isWifiNetifStarted, hSta] using hPosted
  · intro hGuard
    have hStarted := h.netifStarted
    have hAnnounced := h.announced
    have hSeen := h.seen
    refine ⟨?_, ?_, ?_, ?_, ?_, ?_⟩
    all_goals
      by_cases hSta : s.netifStarted <;>
        simp_all [wifiEventNoArgs, isWifiNetifStarted, Seen]

theorem fits_apStart_iff (cfg : Config) (h : Flags s) :
    Fits s.trace (.received (.wifiEventNoArgs .apStart) (wifiEventNoArgs cfg s .apStart).2) ↔
      Seen s (.receive (.wifiEventNoArgs .apStart)) := by
  have hFresh := h.apFresh
  constructor
  · intro hFits hAfter
    have hPosted := hFits.ap_after_start rfl (hFresh ▸ hAfter)
    by_contra hAp
    simp [wifiEventNoArgs, hAp] at hPosted
  · intro hGuard
    by_cases hAp : s.softapStarted
    · refine ⟨?_, ?_, ?_, ?_, ?_, ?_⟩ <;> simp_all [wifiEventNoArgs, Seen]
    · have hOpen := h.ap_open ((Bool.not_eq_true _).mp hAp)
      refine ⟨?_, ?_, ?_, ?_, ?_, ?_⟩ <;>
        simp_all [wifiEventNoArgs, isWifiNetifStarted]

theorem fits_staConnected {event : List UInt8} (h : Flags s) :
    Fits s.trace
      (.received (.staConnected event) (rpcEventCallback cfg s (.staConnected event)).2) := by
  have hStarted := h.netifStarted
  have hConnected := h.netifConnected
  refine ⟨?_, ?_, ?_, ?_, ?_, ?_⟩ <;>
    by_cases hSta : s.netifStarted <;> by_cases hCon : s.netifConnected <;>
      simp_all [rpcEventCallback]

theorem fits_iff {e : Event} (h : Flags s) :
    Fits s.trace (.received e (rpcEventCallback cfg s e).2) ↔ Seen s (.receive e) := by
  cases e with
  | wifiEventNoArgs id =>
    cases id with
    | staStart => exact fits_staStart_iff cfg h
    | apStart => exact fits_apStart_iff cfg h
    | _ =>
      refine iff_of_true ?_ trivial
      constructor <;> simp [rpcEventCallback, wifiEventNoArgs]
  | staConnected event => exact iff_of_true (fits_staConnected h) trivial
  | _ =>
    refine iff_of_true ?_ trivial
    constructor <;> simp [rpcEventCallback]

theorem rpcEventCallback_trace (e : Event) : (rpcEventCallback cfg s e).1.trace = s.trace := by
  unfold rpcEventCallback wifiEventNoArgs
  (repeat' split) <;> rfl

theorem note_trace (e : Event) : (note s e).trace = s.trace := by
  unfold note
  split <;> rfl

/-- The ghosts are not read. -/
theorem rpcEventCallback_note (e : Event) :
    (rpcEventCallback cfg (note s e) e).2 = (rpcEventCallback cfg s e).2 := by
  cases e with
  | wifiEventNoArgs id =>
    cases id with
    | apStart =>
      by_cases hAp : s.softapStarted <;>
        simp [note, rpcEventCallback, wifiEventNoArgs, isWifiNetifStarted, hAp]
    | _ => rfl
  | staConnected event =>
    by_cases hPost : (!s.netifConnected && s.netifStarted) = true <;>
      simp only [note, rpcEventCallback, hPost, if_true, if_false, Bool.false_eq_true]
  | _ => rfl

theorem receive_trace {e : Event} (hStep : step cfg s (.receive e) = some s') :
    s'.trace = s.trace ++ [Obs.received e (rpcEventCallback cfg s e).2] := by
  cases hStep
  show (rpcEventCallback cfg (note s e) e).1.trace ++ _ = _
  rw [rpcEventCallback_trace, note_trace, rpcEventCallback_note]

/-- A step keeps the trace well bracketed exactly when it satisfies the condition. -/
theorem gated_step_iff (hFlags : Flags s) (h : WellBracketed s.trace)
    (hStep : step cfg s a = some s') : WellBracketed s'.trace ↔ Seen s a := by
  cases a with
  | receive e =>
    rw [receive_trace hStep, wellBracketed_append, fits_iff hFlags]
    exact and_iff_right h
  | _ =>
    cases hStep
    refine iff_of_true (wellBracketed_append.mpr ⟨h, ?_⟩) trivial
    constructor <;> simp

/-- Along steps that meet the condition, what is posted is well bracketed. -/
theorem well_bracketed (hRun : Reaches (step cfg) Seen boot s) : WellBracketed s.trace := by
  have hBoth : Flags s ∧ WellBracketed s.trace :=
    hRun.invariant (I := fun s => Flags s ∧ WellBracketed s.trace)
      ⟨boot_flags, wellBracketed_nil⟩ fun _ _ _ ⟨hFlags, h⟩ hSeen hStep =>
        ⟨flags_step hFlags hStep, (gated_step_iff hFlags h hStep).mpr hSeen⟩
  exact hBoth.2

end Steps

def autoConnect : Config := ⟨true⟩

/-- The station and the AP are started, the starts are repeated, the station connects, and the RPC
is started again after an AP stop. -/
theorem well_bracketed_restart :
    ∃ s, Reaches (step autoConnect) Seen boot s ∧
      s.trace.length = 9 ∧ WellBracketed s.trace := by
  obtain ⟨s, hs, hOut⟩ := Option.map_eq_some_iff.mp
    (show (runGuarded (step autoConnect) Seen boot [.rpcStart,
      .receive (.wifiEventNoArgs .staStart), .receive (.wifiEventNoArgs .apStart),
      .receive (.wifiEventNoArgs .staStart), .receive (.staConnected [1]),
      .receive (.wifiEventNoArgs .apStop), .rpcStop, .rpcStart,
      .receive (.wifiEventNoArgs .apStart)]).map (fun s => s.trace.length) =
        some 9 by decide +kernel)
  exact ⟨s, .of_run hs, hOut, well_bracketed (.of_run hs)⟩

/-- The AP is up when the RPC is started again: the AP start that the co-processor repeats is not
posted. -/
theorem not_well_bracketed :
    ¬ ∀ s, Reaches (step autoConnect) anyStep boot s → WellBracketed s.trace := by
  intro h
  obtain ⟨s, hs, hTrace⟩ := Option.map_eq_some_iff.mp
    (show (run (step autoConnect) boot [.rpcStart, .receive (.wifiEventNoArgs .apStart),
      .rpcStop, .rpcStart, .receive (.wifiEventNoArgs .apStart)]).map State.trace =
        some [.rpcStart, .received (.wifiEventNoArgs .apStart) [.wifi .apStart], .rpcStop,
          .rpcStart, .received (.wifiEventNoArgs .apStart) []] by decide +kernel)
  have hPosted := (h s (.of_plain_run hs)).ap_after_start
    [.rpcStart, .received (.wifiEventNoArgs .apStart) [.wifi .apStart], .rpcStop, .rpcStart]
    (.received (.wifiEventNoArgs .apStart) []) [] hTrace
  revert hPosted
  decide

end EspHosted.Wifi.HostEvents
