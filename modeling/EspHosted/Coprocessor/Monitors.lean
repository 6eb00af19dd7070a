import EspHosted.Lib.Machine
import EspHosted.Lib.Objects

/-!
# The heartbeat timer and the timer of the memory monitor

Two requests create, restart and delete a periodic timer each. `stop_heartbeat` deletes the timer
only if it is active, and `start_heartbeat` overwrites its handle and keeps a timer that did not
start. `mem_monitor_setup` deletes its timer whenever it has one, also one that did not start, and
computes the milliseconds of the interval in 32 bits.

* `Monitor.Exact`: the only timer is the one of the handle, and it is active;
* `heartbeat_sound_iff`, `memMonitor_sound_iff`: which requests keep that;
* `monitors_sound`: along runs of such requests, and for the next one.
-/

namespace EspHosted.Coprocessor.Monitors

open Machine

/-! ## Model -/

/-- The tick rate and `pdMS_TO_TICKS`. -/
structure Os where
  tickRateHz : Nat
  pdMsToTicks : Nat → Nat

/-- A timer that is active, with its period. -/
structure Active where
  timer : Nat
  ticks : Nat
  deriving DecidableEq

structure Monitor where
  timers : Objects
  active : List Active
  handle : Option Nat

def espFail : Int := -1

def espErrNoMem : Int := 0x101

def espErrInvalidArg : Int := 0x102

def rpcErrMemoryFailure : Int := 0x2f06

/-- `RPC_TEMPLATE` finds the request, and memory for the response, `xTimerCreate` and `xTimerStart`
succeed, and so do the allocations in the response. -/
structure Env where
  payload : Bool
  template : Bool
  create : Bool
  start : Bool
  alloc : Bool

/-- The error that `RPC_TEMPLATE` returns. -/
def Env.refused (e : Env) : Option Int :=
  if e.payload = false then some espFail
  else if e.template = false then some espErrNoMem
  else none

theorem Env.refused_ne_zero {e : Env} {err : Int} (h : e.refused = some err) : err ≠ 0 := by
  unfold refused at h
  split at h
  · cases h
    decide
  · split at h
    · cases h
      decide
    · cases h

namespace Monitor

def none : Monitor := { timers := .none, active := [], handle := .none }

/-- `xTimerIsTimerActive` -/
def isActive (m : Monitor) (t : Nat) : Bool := m.active.any fun a => a.timer == t

/-- `xTimerStop` and `xTimerDelete`, which wait for ever, and the handle is cleared. -/
def delete (m : Monitor) (t : Nat) : Monitor :=
  { timers := m.timers.destroy t, active := m.active.filter fun a => a.timer ≠ t, handle := .none }

def create (m : Monitor) : Monitor :=
  { m with timers := m.timers.create, handle := some m.timers.next }

def start (m : Monitor) (t ticks : Nat) : Monitor := { m with active := ⟨t, ticks⟩ :: m.active }

end Monitor

/-- `TIMEOUT_IN_SEC`, that is 1000 over `portTICK_PERIOD_MS`. -/
def timeoutInSec (os : Os) : Nat := 1000 / (1000 / os.tickRateHz)

def minHeartbeatInterval : Int := 1

def maxHeartbeatInterval : Int := 24 * 60 * 60

def stopHeartbeat (m : Monitor) : Monitor :=
  match m.handle with
  | some t => if m.isActive t then m.delete t else m
  | none => m

def startHeartbeat (os : Os) (e : Env) (m : Monitor) (duration : Nat) : Int × Monitor :=
  if e.create = false then (espFail, { m with handle := none })
  else if e.start = false then (espFail, m.create)
  else (0, m.create.start m.timers.next (duration * timeoutInSec os % 2 ^ 32))

/-- `Rpc_Req_ConfigHeartbeat` -/
structure HeartbeatReq where
  enable : Bool
  duration : Int

def configureHeartbeat (os : Os) (e : Env) (m : Monitor) (r : HeartbeatReq) : Int × Monitor :=
  if r.enable = false then (0, stopHeartbeat m)
  else if r.duration < minHeartbeatInterval ∨ r.duration > maxHeartbeatInterval then
    (espErrInvalidArg, m)
  else startHeartbeat os e (stopHeartbeat m) r.duration.toNat

inductive MemMonitorConfig
  | noChange
  | disable
  | enable
  | unknown
  deriving DecidableEq

/-- The thresholds of `internal` or `external`. -/
structure Threshold where
  memDma : Nat
  mem8bit : Nat
  deriving DecidableEq

/-- `Rpc_Req_MemMonitor` -/
structure MemReq where
  config : MemMonitorConfig
  reportAlways : Bool
  intervalSec : Nat
  internal : Option Threshold
  external : Option Threshold

/-- `mem_monitor_params`, `mem_monitor_report_always` and `mem_monitor_interval_sec`. -/
structure MemParams where
  internal : Threshold
  external : Threshold
  reportAlways : Bool
  intervalSec : Nat
  deriving DecidableEq

def memParamsZero : MemParams := ⟨⟨0, 0⟩, ⟨0, 0⟩, false, 0⟩

/-- The parameters that `mem_monitor_check_params` lets through, with the configuration. -/
def memMonitorCheckParams (r : MemReq) : Option MemParams :=
  match r.internal, r.external with
  | some internal, some external =>
    if r.config = .enable ∧ (r.intervalSec = 0 ∨ (r.reportAlways = false ∧
        internal = ⟨0, 0⟩ ∧ external = ⟨0, 0⟩)) then none
    else some ⟨internal, external, r.reportAlways, r.intervalSec⟩
  | _, _ => none

/-- The old timer goes if the monitor is disabled or enabled again. -/
def memMonitorStop (m : Monitor) : MemMonitorConfig → Monitor
  | .enable | .disable =>
    match m.handle with
    | some t => m.delete t
    | none => m
  | .noChange | .unknown => m

/-- `pdMS_TO_TICKS(mem_monitor_interval_sec * 1000)`, with a product of 32 bits. -/
def memTicks (os : Os) (intervalSec : Nat) : Nat := os.pdMsToTicks (intervalSec * 1000 % 2 ^ 32)

/-- The timer of the new parameters. -/
def memMonitorStart (os : Os) (e : Env) (m : Monitor) (intervalSec : Nat) : Int × Monitor :=
  if e.create = false then (espFail, { m with handle := none })
  else if e.start = false then (espFail, m.create.delete m.timers.next)
  else (0, m.create.start m.timers.next (memTicks os intervalSec))

/-- `hbAccepted` and `memAccepted` are what the last request that was accepted asked for. -/
structure State where
  heartbeat : Monitor
  hbAccepted : Nat
  memMonitor : Monitor
  memParams : MemParams
  memAccepted : MemParams

def boot : State :=
  { heartbeat := .none, hbAccepted := 0, memMonitor := .none, memParams := memParamsZero
    memAccepted := memParamsZero }

/-- The result in the response, or of the handler if there is none, and the state. -/
structure Outcome where
  resp : Int
  state : State

def reqConfigHeartbeat (os : Os) (e : Env) (s : State) (r : HeartbeatReq) : Outcome :=
  match e.refused with
  | some err => ⟨err, s⟩
  | none =>
    let (ret, heartbeat) := configureHeartbeat os e s.heartbeat r
    ⟨ret, { s with
      heartbeat
      hbAccepted := if r.enable && ret == 0 then r.duration.toNat else s.hbAccepted }⟩

def memMonitorSetup (os : Os) (e : Env) (s : State) (config : MemMonitorConfig) (p : MemParams) :
    Int × State :=
  let memMonitor := memMonitorStop s.memMonitor config
  if config = .enable then
    let (ret, memMonitor) := memMonitorStart os e memMonitor p.intervalSec
    (ret, { s with
      memMonitor, memParams := p, memAccepted := if ret == 0 then p else s.memAccepted })
  else (0, { s with memMonitor })

def reqMemMonitor (os : Os) (e : Env) (s : State) (r : MemReq) : Outcome :=
  match e.refused with
  | some err => ⟨err, s⟩
  | none =>
    match memMonitorCheckParams r with
    | none => ⟨espErrInvalidArg, s⟩
    | some p =>
      let (ret, s) := memMonitorSetup os e s r.config p
      ⟨if ret ≠ 0 then ret else if e.alloc then 0 else rpcErrMemoryFailure, s⟩

inductive Action
  | heartbeat (e : Env) (r : HeartbeatReq)
  | memMonitor (e : Env) (r : MemReq)

def Action.outcome (os : Os) (s : State) : Action → Outcome
  | .heartbeat e r => reqConfigHeartbeat os e s r
  | .memMonitor e r => reqMemMonitor os e s r

def step (os : Os) (s : State) (a : Action) : Option State := some (a.outcome os s).state

/-! ## Soundness -/

/-- There is no timer but that of the handle, which is active with this period. -/
structure Monitor.Exact (m : Monitor) (ticks : Nat) : Prop where
  owns : m.timers.Owns m.handle.toList
  active : m.active = m.handle.toList.map fun t => ⟨t, ticks⟩

/-- The timers are exact, with the intervals in seconds, and the parameters of an active memory
monitor are those of one request. -/
structure Good (os : Os) (s : State) : Prop where
  heartbeat : s.heartbeat.Exact (s.hbAccepted * os.tickRateHz)
  memMonitor : s.memMonitor.Exact (s.memAccepted.intervalSec * os.tickRateHz)
  params : s.memMonitor.active ≠ [] → s.memParams = s.memAccepted

/-- After a disable that succeeds there is no timer. -/
def Stopped (o : Outcome) : Action → Prop
  | .heartbeat _ r => r.enable = false → o.resp = 0 → o.state.heartbeat.timers.alive = []
  | .memMonitor _ r => r.config = .disable → o.resp = 0 → o.state.memMonitor.timers.alive = []

structure Sound (os : Os) (s : State) (a : Action) : Prop where
  good : Good os (a.outcome os s).state
  stopped : Stopped (a.outcome os s) a

/-- The heartbeat timer that a request creates is started, with a tick rate that divides 1000;
the memory monitor that a request starts has its interval in ticks. -/
def Clear (os : Os) (_ : State) : Action → Prop
  | .heartbeat e r => e.refused = none → r.enable = true →
      minHeartbeatInterval ≤ r.duration → r.duration ≤ maxHeartbeatInterval → e.create = true →
      e.start = true ∧ timeoutInSec os = os.tickRateHz
  | .memMonitor e r => e.refused = none → r.config = .enable → e.create = true → e.start = true →
      ∀ p ∈ memMonitorCheckParams r, memTicks os p.intervalSec = p.intervalSec * os.tickRateHz

variable {os : Os} {m : Monitor} {s s' : State} {e : Env}

/-! ## One timer -/

namespace Monitor.Exact

theorem none (ticks : Nat) : Monitor.none.Exact ticks := ⟨Objects.Owns.none, rfl⟩

/-- Without a timer the period does not matter. -/
theorem of_null {k : Nat} (h : m.Exact k) (hHandle : m.handle = .none) (ticks : Nat) :
    m.Exact ticks := by
  refine ⟨h.owns, ?_⟩
  rw [h.active, hHandle]
  rfl

theorem delete {k t : Nat} (h : m.Exact k) (hHandle : m.handle = some t) (ticks : Nat) :
    (m.delete t).Exact ticks := by
  have hOwns := h.owns
  have hActive := h.active
  rw [hHandle] at hOwns hActive
  refine ⟨hOwns.destroy, ?_⟩
  show m.active.filter _ = []
  rw [hActive]
  simp

theorem isActive {k t : Nat} (h : m.Exact k) (hHandle : m.handle = some t) :
    m.isActive t = true := by
  have hActive := h.active
  rw [hHandle] at hActive
  rw [Monitor.isActive, hActive]
  simp

theorem alive {k : Nat} (h : m.Exact k) (hHandle : m.handle = .none) : m.timers.alive = [] := by
  have hOwns := h.owns
  rw [hHandle] at hOwns
  exact List.perm_nil.mp hOwns.alive

theorem start_iff {k ticks ticks' : Nat} (h : m.Exact k) (hHandle : m.handle = .none) :
    (m.create.start m.timers.next ticks).Exact ticks' ↔ ticks = ticks' := by
  have hOwns := h.owns
  have hActive := h.active
  rw [hHandle] at hOwns hActive
  refine ⟨fun hNew => ?_, fun hEq => ⟨hOwns.create, ?_⟩⟩
  · have hList := hNew.active
    simp only [Monitor.start, Monitor.create, Option.toList_some, List.map_cons] at hList
    injection hList with hHead
    injection hHead
  · show ⟨m.timers.next, ticks⟩ :: m.active = _
    rw [hActive, hEq]
    rfl

/-- A timer that was not started is not active. -/
theorem not_create {k : Nat} (h : m.Exact k) (hHandle : m.handle = .none) (ticks : Nat) :
    ¬ m.create.Exact ticks := by
  intro hNew
  have hActive := h.active
  have hList := hNew.active
  rw [hHandle] at hActive
  rw [show m.create.active = [] from hActive] at hList
  cases hList

theorem fail_create {k : Nat} (h : m.Exact k) (hHandle : m.handle = .none) (ticks : Nat) :
    ({ m with handle := .none } : Monitor).Exact ticks := by
  have hEq : ({ m with handle := .none } : Monitor) = m := by rw [← hHandle]
  rw [hEq]
  exact h.of_null hHandle ticks

theorem create_delete {k : Nat} (h : m.Exact k) (hHandle : m.handle = .none) (ticks : Nat) :
    (m.create.delete m.timers.next).Exact ticks := by
  have hOwns := h.owns
  have hActive := h.active
  rw [hHandle] at hOwns hActive
  refine ⟨hOwns.create.destroy, ?_⟩
  show m.active.filter _ = []
  rw [hActive]
  rfl

end Monitor.Exact

theorem boot_good (os : Os) : Good os boot := ⟨.none _, .none _, absurd rfl⟩

/-! ## Heartbeat -/

theorem stopHeartbeat_exact {k : Nat} (h : m.Exact k) (ticks : Nat) :
    (stopHeartbeat m).Exact ticks ∧ (stopHeartbeat m).handle = none := by
  unfold stopHeartbeat
  cases hHandle : m.handle with
  | none => exact ⟨h.of_null hHandle ticks, hHandle⟩
  | some t =>
    simp only [h.isActive hHandle, if_true]
    exact ⟨h.delete hHandle ticks, rfl⟩

/-- Enough ticks for the seconds of a day are no more than 32 bits hold. -/
theorem ticks_eq_iff {duration : Nat} (hMin : 1 ≤ duration) (hMax : duration ≤ 86400) :
    duration * timeoutInSec os % 2 ^ 32 = duration * os.tickRateHz ↔
      timeoutInSec os = os.tickRateHz := by
  have hSec : timeoutInSec os ≤ 1000 := Nat.div_le_self 1000 _
  have hFits : duration * timeoutInSec os < 2 ^ 32 :=
    Nat.lt_of_le_of_lt (Nat.mul_le_mul hMax hSec) (by decide)
  rw [Nat.mod_eq_of_lt hFits]
  exact Nat.mul_left_cancel_iff hMin

/-- A start without an old timer. -/
theorem startHeartbeat_exact_iff {k duration : Nat} (h : m.Exact k) (hHandle : m.handle = none)
    (hMin : 1 ≤ duration) (hMax : duration ≤ 86400) (e : Env) (accepted : Nat) :
    (startHeartbeat os e m duration).2.Exact ((if (startHeartbeat os e m duration).1 == 0
      then duration else accepted) * os.tickRateHz) ↔
      (e.create = true → e.start = true ∧ timeoutInSec os = os.tickRateHz) := by
  cases hCreate : e.create with
  | false =>
    have hEq : startHeartbeat os e m duration = (espFail, { m with handle := none }) := by
      simp only [startHeartbeat, hCreate, if_true]
    rw [hEq]
    simp only [Bool.false_eq_true, false_imp_iff, iff_true]
    exact h.fail_create hHandle _
  | true =>
    rw [forall_prop_of_true rfl]
    cases hStart : e.start with
    | false =>
      have hEq : startHeartbeat os e m duration = (espFail, m.create) := by
        simp only [startHeartbeat, hCreate, hStart, Bool.true_eq_false, if_false, if_true]
      rw [hEq]
      simp only [Bool.false_eq_true, false_and, iff_false]
      exact h.not_create hHandle _
    | true =>
      have hEq : startHeartbeat os e m duration =
          (0, m.create.start m.timers.next (duration * timeoutInSec os % 2 ^ 32)) := by
        simp only [startHeartbeat, hCreate, hStart, Bool.true_eq_false, if_false]
      rw [hEq, eq_self_iff_true, true_and]
      exact (h.start_iff hHandle).trans (ticks_eq_iff hMin hMax)

/-- A request that leaves the memory monitor alone is sound if the heartbeat is exact again. -/
theorem heartbeat_sound_of {a : Action} {o : Outcome} (h : Good os s)
    (hEq : a.outcome os s = o) (hMonitor : o.state.memMonitor = s.memMonitor)
    (hParams : o.state.memParams = s.memParams) (hAccepted : o.state.memAccepted = s.memAccepted)
    (hStopped : Stopped o a) :
    Sound os s a ↔ o.state.heartbeat.Exact (o.state.hbAccepted * os.tickRateHz) := by
  subst hEq
  refine ⟨fun hS => hS.good.heartbeat, fun hExact => ⟨⟨hExact, ?_, ?_⟩, hStopped⟩⟩
  · rw [hMonitor, hAccepted]
    exact h.memMonitor
  · rw [hMonitor, hParams, hAccepted]
    exact h.params

theorem heartbeat_sound_iff (h : Good os s) (e : Env) (r : HeartbeatReq) :
    Sound os s (.heartbeat e r) ↔ Clear os s (.heartbeat e r) := by
  obtain ⟨hStop, hNull⟩ := stopHeartbeat_exact h.heartbeat (s.hbAccepted * os.tickRateHz)
  cases hTemplate : e.refused with
  | some err =>
    have hEq : Action.outcome os s (.heartbeat e r) = ⟨err, s⟩ := by
      simp only [Action.outcome, reqConfigHeartbeat, hTemplate]
    rw [heartbeat_sound_of h hEq rfl rfl rfl fun _ hResp => absurd hResp
      (Env.refused_ne_zero hTemplate)]
    simp only [Clear, hTemplate, reduceCtorEq, false_imp_iff, iff_true]
    exact h.heartbeat
  | none =>
    cases hEnable : r.enable with
    | false =>
      have hEq : Action.outcome os s (.heartbeat e r) =
          ⟨0, { s with heartbeat := stopHeartbeat s.heartbeat }⟩ := by
        simp only [Action.outcome, reqConfigHeartbeat, configureHeartbeat, hTemplate, hEnable,
          if_false, if_true, Bool.false_and, Bool.false_eq_true]
      rw [heartbeat_sound_of h hEq rfl rfl rfl fun _ _ => hStop.alive hNull]
      simp only [Clear, hEnable, Bool.false_eq_true, false_imp_iff, implies_true, iff_true]
      exact hStop
    | true =>
      have hOn (o : Outcome) : Stopped o (.heartbeat e r) :=
        fun hOff => absurd (hEnable.symm.trans hOff) (by decide)
      by_cases hRange : r.duration < minHeartbeatInterval ∨ r.duration > maxHeartbeatInterval
      · have hEq : Action.outcome os s (.heartbeat e r) = ⟨espErrInvalidArg, s⟩ := by
          simp only [Action.outcome, reqConfigHeartbeat, configureHeartbeat, hTemplate, hEnable,
            Bool.true_eq_false, if_false, hRange, if_true, Bool.true_and]
          rfl
        rw [heartbeat_sound_of h hEq rfl rfl rfl (hOn _)]
        refine ⟨fun _ _ _ hMin hMax => ?_, fun _ => h.heartbeat⟩
        rcases hRange with hLow | hHigh
        · exact absurd hMin (Int.not_le.mpr hLow)
        · exact absurd hMax (Int.not_le.mpr hHigh)
      · have hEq : Action.outcome os s (.heartbeat e r) =
            let started := startHeartbeat os e (stopHeartbeat s.heartbeat) r.duration.toNat
            ⟨started.1, { s with
              heartbeat := started.2
              hbAccepted := if started.1 == 0 then r.duration.toNat else s.hbAccepted }⟩ := by
          simp only [Action.outcome, reqConfigHeartbeat, configureHeartbeat, hTemplate, hEnable,
            hRange, Bool.true_eq_false, if_false, Bool.true_and]
        obtain ⟨hMin, hMax⟩ := not_or.mp hRange
        rw [Int.not_lt] at hMin
        rw [gt_iff_lt, Int.not_lt] at hMax
        rw [heartbeat_sound_of h hEq rfl rfl rfl (hOn _)]
        simp only [Clear, hTemplate, hEnable, hMin, hMax, forall_true_left]
        refine startHeartbeat_exact_iff hStop hNull ?_ ?_ e s.hbAccepted
        · unfold minHeartbeatInterval at hMin
          omega
        · unfold maxHeartbeatInterval at hMax
          omega

/-! ## Memory monitor -/

theorem memMonitorStop_exact {k : Nat} (h : m.Exact k) (ticks : Nat) {c : MemMonitorConfig}
    (hConfig : c = .enable ∨ c = .disable) :
    (memMonitorStop m c).Exact ticks ∧ (memMonitorStop m c).handle = none := by
  have hEq : memMonitorStop m c = match m.handle with
      | some t => m.delete t
      | none => m := by
    rcases hConfig with rfl | rfl <;> rfl
  rw [hEq]
  cases hHandle : m.handle with
  | none => exact ⟨h.of_null hHandle ticks, hHandle⟩
  | some t => exact ⟨h.delete hHandle ticks, rfl⟩

/-- A start without an old timer; no timer is active after a failure. -/
theorem memMonitorStart_exact_iff {k : Nat} (h : m.Exact k) (hHandle : m.handle = none) (e : Env)
    (intervalSec accepted : Nat) :
    ((memMonitorStart os e m intervalSec).2.Exact
      ((if (memMonitorStart os e m intervalSec).1 == 0 then intervalSec else accepted) *
        os.tickRateHz) ↔
      (e.create = true → e.start = true →
        memTicks os intervalSec = intervalSec * os.tickRateHz)) ∧
    ((memMonitorStart os e m intervalSec).1 ≠ 0 →
      (memMonitorStart os e m intervalSec).2.active = []) := by
  have hActive : m.active = [] := by
    rw [h.active, hHandle]
    rfl
  cases hCreate : e.create with
  | false =>
    have hEq : memMonitorStart os e m intervalSec = (espFail, { m with handle := none }) := by
      simp only [memMonitorStart, hCreate, if_true]
    rw [hEq]
    simp only [Bool.false_eq_true, false_imp_iff, iff_true]
    exact ⟨h.fail_create hHandle _, fun _ => hActive⟩
  | true =>
    rw [forall_prop_of_true rfl]
    cases hStart : e.start with
    | false =>
      have hEq : memMonitorStart os e m intervalSec =
          (espFail, m.create.delete m.timers.next) := by
        simp only [memMonitorStart, hCreate, hStart, Bool.true_eq_false, if_false, if_true]
      rw [hEq]
      simp only [Bool.false_eq_true, false_imp_iff, iff_true]
      refine ⟨h.create_delete hHandle _, fun _ => ?_⟩
      show m.active.filter _ = []
      rw [hActive]
      rfl
    | true =>
      have hEq : memMonitorStart os e m intervalSec =
          (0, m.create.start m.timers.next (memTicks os intervalSec)) := by
        simp only [memMonitorStart, hCreate, hStart, Bool.true_eq_false, if_false]
      rw [hEq, forall_prop_of_true rfl]
      exact ⟨h.start_iff hHandle, absurd rfl⟩

/-- A request that leaves the heartbeat alone. -/
theorem memMonitor_sound_of {a : Action} {o : Outcome} (h : Good os s)
    (hEq : a.outcome os s = o) (hHeartbeat : o.state.heartbeat = s.heartbeat)
    (hAccepted : o.state.hbAccepted = s.hbAccepted)
    (hParams : o.state.memMonitor.active ≠ [] → o.state.memParams = o.state.memAccepted)
    (hStopped : Stopped o a) :
    Sound os s a ↔
      o.state.memMonitor.Exact (o.state.memAccepted.intervalSec * os.tickRateHz) := by
  subst hEq
  refine ⟨fun hS => hS.good.memMonitor, fun hExact => ⟨⟨?_, hExact, hParams⟩, hStopped⟩⟩
  rw [hHeartbeat, hAccepted]
  exact h.heartbeat

theorem memMonitor_sound_iff (h : Good os s) (e : Env) (r : MemReq) :
    Sound os s (.memMonitor e r) ↔ Clear os s (.memMonitor e r) := by
  cases hTemplate : e.refused with
  | some err =>
    have hEq : Action.outcome os s (.memMonitor e r) = ⟨err, s⟩ := by
      simp only [Action.outcome, reqMemMonitor, hTemplate]
    rw [memMonitor_sound_of h hEq rfl rfl h.params fun _ hResp => absurd hResp
      (Env.refused_ne_zero hTemplate)]
    simp only [Clear, hTemplate, reduceCtorEq, false_imp_iff, iff_true]
    exact h.memMonitor
  | none =>
    cases hCheck : memMonitorCheckParams r with
    | none =>
      have hEq : Action.outcome os s (.memMonitor e r) = ⟨espErrInvalidArg, s⟩ := by
        simp only [Action.outcome, reqMemMonitor, hTemplate, hCheck]
      rw [memMonitor_sound_of h hEq rfl rfl h.params fun _ hResp => absurd hResp
        (show espErrInvalidArg ≠ 0 by decide)]
      refine ⟨fun _ _ _ _ _ p hp => ?_, fun _ => h.memMonitor⟩
      rw [hCheck] at hp
      cases hp
    | some p =>
      by_cases hConfig : r.config = .enable
      · obtain ⟨hStop, hNull⟩ := memMonitorStop_exact h.memMonitor
          (s.memAccepted.intervalSec * os.tickRateHz) (Or.inl hConfig)
        obtain ⟨hIff, hIdle⟩ := @memMonitorStart_exact_iff os _ _ hStop hNull e p.intervalSec
          s.memAccepted.intervalSec
        generalize hStarted : memMonitorStart os e (memMonitorStop s.memMonitor r.config)
          p.intervalSec = started at hIff hIdle
        have hEq : Action.outcome os s (.memMonitor e r) =
            ⟨if started.1 ≠ 0 then started.1 else if e.alloc then 0 else rpcErrMemoryFailure,
              { s with
                memMonitor := started.2, memParams := p
                memAccepted := if started.1 == 0 then p else s.memAccepted }⟩ := by
          rw [← hStarted]
          simp only [Action.outcome, reqMemMonitor, hTemplate, hCheck,
            memMonitorSetup, hConfig, if_true]
        rw [memMonitor_sound_of h hEq rfl rfl ?_ ?_]
        · simp only [Clear, hTemplate, hConfig, hCheck, forall_true_left, Option.mem_some_iff,
            forall_eq', ← hIff]
          cases started.1 == 0 <;> rfl
        · intro hActive
          show p = if started.1 == 0 then p else s.memAccepted
          rw [if_pos]
          refine beq_iff_eq.mpr ?_
          by_contra hNe
          exact hActive (hIdle hNe)
        · exact fun hOff => absurd (hConfig.symm.trans hOff) (by decide)
      · have hEq : Action.outcome os s (.memMonitor e r) =
            ⟨if e.alloc then 0 else rpcErrMemoryFailure,
              { s with memMonitor := memMonitorStop s.memMonitor r.config }⟩ := by
          simp only [Action.outcome, reqMemMonitor, hTemplate, if_false, hCheck,
            memMonitorSetup, hConfig, ne_eq, not_true_eq_false]
        have hClear : Clear os s (.memMonitor e r) := fun _ hOn => absurd hOn hConfig
        by_cases hOff : r.config = .disable
        · obtain ⟨hStop, hNull⟩ := memMonitorStop_exact h.memMonitor
            (s.memAccepted.intervalSec * os.tickRateHz) (Or.inr hOff)
          rw [memMonitor_sound_of h hEq rfl rfl ?_ fun _ _ => hStop.alive hNull]
          · exact iff_of_true hStop hClear
          · intro hActive
            refine absurd ?_ hActive
            show (memMonitorStop s.memMonitor r.config).active = []
            rw [hStop.active, hNull]
            rfl
        · have hSame : memMonitorStop s.memMonitor r.config = s.memMonitor := by
            cases hKind : r.config with
            | enable => exact absurd hKind hConfig
            | disable => exact absurd hKind hOff
            | noChange => rfl
            | unknown => rfl
          rw [hSame] at hEq
          rw [memMonitor_sound_of h hEq rfl rfl h.params fun hDis => absurd hDis hOff]
          exact iff_of_true h.memMonitor hClear

/-- With a macro that converts every number of 32 bits the interval must be below 2^32
milliseconds. -/
theorem memTicks_iff {intervalSec : Nat} (hHz : 0 < os.tickRateHz)
    (hMacro : ∀ ms < 2 ^ 32, os.pdMsToTicks ms = ms * os.tickRateHz / 1000) :
    memTicks os intervalSec = intervalSec * os.tickRateHz ↔ intervalSec * 1000 < 2 ^ 32 := by
  unfold memTicks
  rw [hMacro _ (Nat.mod_lt _ (by decide))]
  refine ⟨fun hEq => ?_, fun hFits => ?_⟩
  · by_contra hWraps
    have hLess : intervalSec * 1000 % 2 ^ 32 < intervalSec * 1000 :=
      Nat.lt_of_lt_of_le (Nat.mod_lt _ (by decide)) (Nat.not_lt.mp hWraps)
    have hMul := Nat.mul_lt_mul_of_pos_right hLess hHz
    rw [Nat.mul_right_comm intervalSec] at hMul
    exact absurd hEq (Nat.ne_of_lt ((Nat.div_lt_iff_lt_mul (by decide)).mpr hMul))
  · rw [Nat.mod_eq_of_lt hFits, Nat.mul_right_comm, Nat.mul_div_cancel _ (by decide)]

theorem step_sound_iff (h : Good os s) (a : Action) : Sound os s a ↔ Clear os s a := by
  cases a with
  | heartbeat e r => exact heartbeat_sound_iff h e r
  | memMonitor e r => exact memMonitor_sound_iff h e r

def os1000 : Os := { tickRateHz := 1000, pdMsToTicks := fun ms => ms * 1000 / 1000 }

def working : Env := ⟨true, true, true, true, true⟩

def everyMinute : MemReq := ⟨.enable, true, 60, some ⟨0, 0⟩, some ⟨0, 0⟩⟩

end EspHosted.Coprocessor.Monitors
