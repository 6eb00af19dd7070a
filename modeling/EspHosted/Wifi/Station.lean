import Mathlib.Tactic.Common

/-!
# The station of the co-processor

The station has four flags and one cached configuration. The task that serves the requests of the
host and the event loop, which handles the events of the driver, share them without a lock. A step
is one access to them, or one call of the driver or of `send_event_data_to_host`; a task may go on
between any two steps of the other. The results of the calls into the driver are free, except that
the driver refuses `esp_wifi_set_config` while it connects and for a configuration that is not
valid.

The driver numbers its links. Its events wait in `pending` until `event_handler_wifi` takes them,
and the link may change again in the meantime.
-/

namespace EspHosted.Wifi.Station

/-! ## The driver -/

/-- The values of `esp_err_t` that are told apart. -/
inductive EspErr
  | espOk
  | wifiNotInit
  | wifiSsid
  | wifiConn
  | fail
  deriving DecidableEq

/-- `wifi_config_t` of the station: the SSID and everything else. -/
structure WifiConfig where
  ssid : List UInt8
  rest : List UInt8
  deriving DecidableEq

/-- A configuration with the number of the request that brought it, which no code reads. -/
structure Provision where
  seq : Nat
  config : WifiConfig
  deriving DecidableEq

/-- `WIFI_EVENT_STA_*`; `staDisconnected none` is a connect that failed. -/
inductive DriverEvent
  | staStart
  | staStop
  | staConnected (link : Nat)
  | staDisconnected (link : Option Nat)
  deriving DecidableEq

/-- `links` counts the links so far, and `up` says that the last of them is up. -/
structure Driver where
  config : Provision
  connecting : Bool
  up : Bool
  links : Nat
  pending : List DriverEvent

/-- `valid` holds of the configurations that the driver takes. -/
structure Config where
  valid : WifiConfig → Bool
  autoConnectOnStaStart : Bool
  autoConnectOnStaDisconnect : Bool
  autoReconnectMaxRetry : Nat

inductive SetResult
  | espOk
  | invalid
  | refused
  deriving DecidableEq

def espWifiSetConfig (cfg : Config) (d : Driver) (c : Provision) (ok : Bool) : SetResult :=
  if d.connecting then .refused
  else if !cfg.valid c.config then .invalid
  else if ok then .espOk else .refused

def espWifiConnect (d : Driver) (ret : EspErr) : Driver :=
  if ret = .espOk ∧ d.up = false then { d with connecting := true } else d

/-- The link goes down, or the driver gives up connecting. -/
def leave (d : Driver) : Driver :=
  if d.up then { d with up := false, pending := d.pending ++ [.staDisconnected (some d.links)] }
  else if d.connecting then
    { d with connecting := false, pending := d.pending ++ [.staDisconnected none] }
  else d

/-- The link goes down in the call, or later. -/
def espWifiDisconnect (d : Driver) (now : Bool) : Driver := if now then leave d else d

def associate (d : Driver) : Option Driver :=
  if d.connecting ∧ d.up = false then
    some { d with connecting := false, up := true, links := d.links + 1
                  pending := d.pending ++ [.staConnected (d.links + 1)] }
  else none

def post (d : Driver) (e : DriverEvent) : Driver := { d with pending := d.pending ++ [e] }

/-! ## The state -/

/-- A configuration that the driver took, and the newest request that was answered by then. -/
structure Applied where
  seq : Nat
  answered : Nat
  deriving DecidableEq

/-- An event sent to the host. `up` says whether the link is up. -/
inductive Report
  | staConnected (link : Nat) (up : Bool)
  | staDisconnected (link : Option Nat)
  | staStart
  | staStop
  deriving DecidableEq

/-- What the task that serves the requests does next. -/
inductive ReqPc
  | idle
  /-- `if (station_connecting)` of `esp_hosted_set_sta_config` -/
  | setTest (c : Provision)
  /-- `esp_wifi_set_config` -/
  | setApply (c : Provision)
  /-- `memcpy(&new_wifi_config, ..)`, in two steps -/
  | setCopy (c : Provision)
  | setCopyRest (c : Provision)
  /-- `new_config_recvd = true` -/
  | setFlag (c : Provision)
  /-- `new_config_recvd = false` -/
  | setClear (c : Provision)
  /-- `esp_wifi_get_config` of `req_wifi_connect` -/
  | connectGet
  /-- `if (!station_connected)` -/
  | connectTest
  /-- `station_connecting = true` -/
  | connectMark
  /-- `esp_wifi_connect` -/
  | connectCall
  /-- `station_connecting = false` -/
  | connectFailed (ret : EspErr)
  /-- `send_wifi_event_data_to_host` -/
  | connectSend
  /-- `esp_wifi_disconnect` of `req_wifi_disconnect` -/
  | disconnect
  deriving DecidableEq

/-- What `event_handler_wifi` does next. -/
inductive EvtPc
  | idle
  /-- `if (new_config_recvd)`, in the branch for `WIFI_EVENT_STA_CONNECTED` -/
  | connTest (link : Nat)
  /-- `esp_wifi_set_config` with the cached configuration -/
  | connApply
  /-- `esp_wifi_disconnect` -/
  | connDisconnect
  /-- `suppress_disconnect = true` -/
  | connSuppress
  /-- `station_connecting = false` -/
  | connReset (link : Nat)
  /-- `send_event_data_to_host` -/
  | connSend (link : Nat)
  /-- `memcpy(&lkg_sta_connected_event, ..)` -/
  | connKeep (link : Nat)
  /-- `station_connected = true` -/
  | connDone
  /-- `if (new_config_recvd)`, in the branch for `WIFI_EVENT_STA_DISCONNECTED` -/
  | discTest (link : Option Nat)
  /-- `esp_wifi_set_config` with the cached configuration -/
  | discApply (link : Option Nat)
  /-- `new_config_recvd = false` -/
  | discClear (link : Option Nat)
  /-- `station_connected = false` -/
  | discDown (link : Option Nat) (reconnectPending : Bool)
  /-- `station_connecting = reconnect_pending` -/
  | discMark (link : Option Nat) (reconnectPending : Bool)
  /-- `esp_wifi_connect` -/
  | discConnect (link : Option Nat)
  /-- `if (!suppress_disconnect)` -/
  | discCheck (link : Option Nat)
  /-- `send_event_data_to_host` -/
  | discSend (link : Option Nat)
  /-- `CONFIG_ESP_HOSTED_WIFI_AUTO_CONNECT_ON_STA_DISCONNECT` -/
  | discAuto
  /-- `suppress_disconnect = false` -/
  | discUnsuppress (link : Option Nat)
  /-- `if (!station_connecting)`, in the branch for `WIFI_EVENT_STA_START` -/
  | startTest
  /-- `station_connecting = true` -/
  | startMark
  /-- `esp_wifi_connect` -/
  | startConnect
  | startSend
  /-- `station_connecting = false`, in the branch for `WIFI_EVENT_STA_STOP` -/
  | stopMark
  | stopSend
  deriving DecidableEq

/-- `dhcpSends`: a task in `send_dhcp_dns_info_to_host` found `station_connected` set. From
`requests` on, what happened so far. `provided` are the configurations that requests brought.
`rejected`: the event handler saw the driver reject the cached configuration as invalid. `tornDown`
has an entry for each new link that was taken down for a cached configuration: whether it had been
rejected before. `hidden` are the suppressed disconnected events; `handled` and `openLink` are the
links by the events that were taken. -/
structure State where
  stationConnecting : Bool
  stationConnected : Bool
  newConfigRecvd : Bool
  suppressDisconnect : Bool
  newWifiConfig : Provision
  lkgStaConnectedEvent : Nat
  sWifiReconnectRetries : Nat
  driver : Driver
  req : ReqPc
  resp : EspErr
  evt : EvtPc
  dhcpSends : Bool
  requests : Nat
  answered : Nat
  provided : List Provision
  applied : List Applied
  rejected : Bool
  tornDown : List Bool
  sent : List Report
  hidden : List (Option Nat)
  handled : Nat
  openLink : Bool

def boot (config : WifiConfig) : State :=
  { stationConnecting := false, stationConnected := false, newConfigRecvd := false
    suppressDisconnect := false, newWifiConfig := ⟨0, ⟨[], []⟩⟩, lkgStaConnectedEvent := 0
    sWifiReconnectRetries := 0
    driver := { config := ⟨0, config⟩, connecting := false, up := false, links := 0, pending := [] }
    req := .idle, resp := .espOk, evt := .idle, dhcpSends := false
    requests := 0, answered := 0, provided := [⟨0, config⟩], applied := [], rejected := false
    tornDown := [], sent := [], hidden := [], handled := 0, openLink := false }

/-- The results of the calls that a step makes. -/
structure Results where
  setOk : Bool
  getOk : Bool
  connectRet : EspErr
  disconnectRet : EspErr
  disconnectNow : Bool
  deriving DecidableEq

def strlen (bytes : List UInt8) : Nat := (bytes.takeWhile (· ≠ 0)).length

def applyConfig (s : State) (c : Provision) : State :=
  { s with driver := { s.driver with config := c }
           applied := s.applied ++ [⟨c.seq, s.answered⟩] }

def sendStaConnected (s : State) (link : Nat) : State :=
  { s with sent := s.sent ++ [.staConnected link (s.driver.up && s.driver.links == link)] }

/-! ## Requests -/

/-- The request is answered. -/
def answer (s : State) (resp : EspErr) : State := { s with req := .idle, resp := resp }

/-- `ESP_OK` for a configuration. -/
def answerConfig (s : State) (c : Provision) : State :=
  { answer s .espOk with answered := c.seq, rejected := false }

/-- The first half of the copy into the cache. -/
def copySsid (s : State) (c : Provision) : State :=
  { s with newWifiConfig := ⟨c.seq, { s.newWifiConfig.config with ssid := c.config.ssid }⟩ }

def reqExec (cfg : Config) (s : State) (r : Results) : ReqPc → State
  | .idle => s
  | .setTest c => { s with req := if s.stationConnecting then .setCopy c else .setApply c }
  | .setApply c =>
    match espWifiSetConfig cfg s.driver c r.setOk with
    | .espOk => { applyConfig s c with req := .setClear c }
    | .invalid | .refused => { s with req := .setCopy c }
  | .setCopy c => { copySsid s c with req := .setCopyRest c }
  | .setCopyRest c => { s with newWifiConfig := c, req := .setFlag c }
  | .setFlag c => { answerConfig s c with newConfigRecvd := true }
  | .setClear c => { answerConfig s c with newConfigRecvd := false }
  | .connectGet =>
    if !r.getOk then answer s .wifiNotInit
    else if strlen s.driver.config.config.ssid = 0 then answer s .wifiSsid
    else { s with req := .connectTest }
  | .connectTest => { s with req := if s.stationConnected then .connectSend else .connectMark }
  | .connectMark => { s with stationConnecting := true, req := .connectCall }
  | .connectCall =>
    let t := { s with driver := espWifiConnect s.driver r.connectRet }
    if r.connectRet = .espOk ∨ r.connectRet = .wifiConn then answer t .espOk
    else { t with req := .connectFailed r.connectRet }
  | .connectFailed ret => { answer s ret with stationConnecting := false }
  | .connectSend => answer (sendStaConnected s s.lkgStaConnectedEvent) .espOk
  | .disconnect =>
    let now := r.disconnectRet == .espOk && r.disconnectNow
    answer { s with driver := espWifiDisconnect s.driver now } r.disconnectRet

/-! ## Events -/

/-- Gives the cached configuration to the driver. -/
def applyCached (cfg : Config) (s : State) (ok : Bool) : State × SetResult :=
  match espWifiSetConfig cfg s.driver s.newWifiConfig ok with
  | .espOk => (applyConfig s s.newWifiConfig, .espOk)
  | .invalid => ({ s with rejected := true }, .invalid)
  | .refused => (s, .refused)

/-- `CONFIG_ESP_HOSTED_WIFI_AUTO_CONNECT_ON_STA_DISCONNECT`. -/
def autoReconnect (cfg : Config) (s : State) (ret : EspErr) : State :=
  if !cfg.autoConnectOnStaDisconnect then s
  else if s.sWifiReconnectRetries < cfg.autoReconnectMaxRetry then
    { s with driver := espWifiConnect s.driver ret
             sWifiReconnectRetries := s.sWifiReconnectRetries + 1 }
  else { s with sWifiReconnectRetries := 0 }

def evtExec (cfg : Config) (s : State) (r : Results) : EvtPc → State
  | .idle => s
  | .connTest link =>
    if s.newConfigRecvd then
      { s with tornDown := s.tornDown ++ [s.rejected], evt := .connApply }
    else { s with evt := .connReset link }
  | .connApply => { (applyCached cfg s r.setOk).1 with evt := .connDisconnect }
  | .connDisconnect =>
    { s with driver := espWifiDisconnect s.driver r.disconnectNow, evt := .connSuppress }
  | .connSuppress => { s with suppressDisconnect := true, evt := .idle }
  | .connReset link =>
    { s with stationConnecting := false, evt := .connSend link
             sWifiReconnectRetries :=
               if cfg.autoConnectOnStaDisconnect then 0 else s.sWifiReconnectRetries }
  | .connSend link => { sendStaConnected s link with evt := .connKeep link }
  | .connKeep link => { s with lkgStaConnectedEvent := link, evt := .connDone }
  | .connDone => { s with stationConnected := true, evt := .idle }
  | .discTest link =>
    { s with evt := if s.newConfigRecvd then .discApply link else .discDown link false }
  | .discApply link =>
    let t := applyCached cfg s r.setOk
    { t.1 with evt := if t.2 = .espOk then .discClear link else .discDown link false }
  | .discClear link => { s with newConfigRecvd := false, evt := .discDown link true }
  | .discDown link reconnectPending =>
    { s with stationConnected := false, evt := .discMark link reconnectPending }
  | .discMark link reconnectPending =>
    { s with stationConnecting := reconnectPending
             evt := if reconnectPending then .discConnect link else .discCheck link }
  | .discConnect link =>
    { s with driver := espWifiConnect s.driver r.connectRet, evt := .discCheck link }
  | .discCheck link =>
    { s with evt := if s.suppressDisconnect then .discUnsuppress link else .discSend link }
  | .discSend link => { s with sent := s.sent ++ [.staDisconnected link], evt := .discAuto }
  | .discAuto => { autoReconnect cfg s r.connectRet with evt := .idle }
  | .discUnsuppress link =>
    { s with suppressDisconnect := false, hidden := s.hidden ++ [link], evt := .idle }
  | .startTest =>
    { s with evt := if s.stationConnecting then .idle
                    else if cfg.autoConnectOnStaStart then .startMark else .startSend }
  | .startMark => { s with stationConnecting := true, evt := .startConnect }
  | .startConnect =>
    { s with driver := espWifiConnect s.driver r.connectRet, evt := .startSend }
  | .startSend => { s with sent := s.sent ++ [.staStart], evt := .idle }
  | .stopMark => { s with stationConnecting := false, evt := .stopSend }
  | .stopSend => { s with sent := s.sent ++ [.staStop], evt := .idle }

/-- The event loop takes an event. -/
def takeEvent (s : State) : DriverEvent → State
  | .staConnected link => { s with handled := link, openLink := true, evt := .connTest link }
  | .staDisconnected link => { s with openLink := false, evt := .discTest link }
  | .staStart => { s with evt := .startTest }
  | .staStop => { s with evt := .stopMark }

/-! ## Steps -/

/-- A request of the host, what the driver does on its own, and a step of one of the tasks. -/
inductive Action
  | setConfig (config : WifiConfig)
  | wifiConnect
  | wifiDisconnect
  | req (r : Results)
  | dhcpTest
  | dhcpSend
  | associate
  | leave
  | start
  | stop
  | take
  | evt (r : Results)
  deriving DecidableEq

/-- Requests are served one after the other. -/
def serve (s : State) (pc : ReqPc) : Option State :=
  if s.req = .idle then some { s with req := pc } else none

def step (cfg : Config) (s : State) : Action → Option State
  | .setConfig config =>
    let c : Provision := ⟨s.requests + 1, config⟩
    (serve s (.setTest c)).map fun t =>
      { t with requests := s.requests + 1, provided := s.provided ++ [c] }
  | .wifiConnect => serve s .connectGet
  | .wifiDisconnect => serve s .disconnect
  | .req r => if s.req = .idle then none else some (reqExec cfg s r s.req)
  | .dhcpTest => if s.dhcpSends then none else some { s with dhcpSends := s.stationConnected }
  | .dhcpSend =>
    if s.dhcpSends then
      some { sendStaConnected s s.lkgStaConnectedEvent with dhcpSends := false }
    else none
  | .associate => (Station.associate s.driver).map fun d => { s with driver := d }
  | .leave => some { s with driver := Station.leave s.driver }
  | .start => some { s with driver := post s.driver .staStart }
  | .stop => some { s with driver := post (Station.leave s.driver) .staStop }
  | .take =>
    if s.evt = .idle then
      match s.driver.pending with
      | [] => none
      | e :: rest => some (takeEvent { s with driver := { s.driver with pending := rest } } e)
    else none
  | .evt r => if s.evt = .idle then none else some (evtExec cfg s r s.evt)

/-- All calls succeed, and a link goes down when it is asked to. -/
def allOk : Results :=
  { setOk := true, getOk := true, connectRet := .espOk, disconnectRet := .espOk
    disconnectNow := true }

/-- `n` steps of the task of the requests, or of the event loop. -/
def reqs (n : Nat) : List Action := List.replicate n (.req allOk)

def evts (n : Nat) : List Action := List.replicate n (.evt allOk)

section Steps

variable {cfg : Config} {s : State}

theorem step_evt {r : Results} {pc : EvtPc} (hEvt : s.evt = pc) (hPc : pc ≠ .idle) :
    step cfg s (.evt r) = some (evtExec cfg s r pc) := by
  subst hEvt
  exact if_neg hPc

theorem step_take {e : DriverEvent} {rest : List DriverEvent} (hIdle : s.evt = .idle)
    (hPending : s.driver.pending = e :: rest) :
    step cfg s .take =
      some (takeEvent { s with driver := { s.driver with pending := rest } } e) := by
  unfold step
  dsimp only
  rw [if_pos hIdle, hPending]

end Steps

end EspHosted.Wifi.Station
