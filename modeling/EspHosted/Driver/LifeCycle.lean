import EspHosted.Lib.Machine
import EspHosted.Lib.Objects
import Mathlib.Data.List.Range
import Mathlib.Logic.Function.Basic

/-!
# The life cycle of the host's transport

`setup_transport` opens the bus and `teardown_transport` closes it. An attempt to connect, a call
of `transport_drv_reconfigure`, starts a timer that restarts the host, gets the bus ready and polls
until the transport is active in both directions, which `process_init_event` makes it when the
coprocessor has sent its INIT event.

One step is what `setup_transport`, `teardown_transport`, an attempt or `process_init_event` does
between two reads or writes of shared variables. Attempts are numbered in the order in which they
begin, and may overlap, as may the calls of the other functions. The wait for power save to end
changes nothing and is left out. Both ports free a timer when it is stopped.

* `Inv`, `step_inv`: what the steps preserve;
* `healthy_of_reaches`: one bus at most, no timer behind the end of an attempt or an active
  transport, and all retries for every attempt, in runs that keep to `Careful`.
-/

namespace EspHosted.Driver

open Machine

def maxRetryTransportActive : Nat := 100

/-- `transport_state`. -/
inductive TransportState
  | inactive
  | rxActive
  | txActive
  deriving DecidableEq

/-- Where a task is in `if (init_timeout_timer)`, which stops the timer and clears the pointer. -/
inductive StopPc
  | test
  | stop
  | clear
  deriving DecidableEq

/-- An attempt: its timer has been created (`arming`), or could not be started (`deleting`), it
looks whether the transport is active, `h_bus_ready` is to be called or has returned, it polls, with
a call of `h_bus_ready` now and then (`retrying`), or it has returned `H_OK` or `H_FAIL`. -/
inductive AttemptPc
  | unborn
  | arming
  | deleting (pc : StopPc)
  | checking
  | readying
  | activating
  | waiting
  | retrying
  | returned (ok : Bool)
  deriving DecidableEq

/-- The attempt has its timer, and waits for an INIT event. -/
def AttemptPc.connecting : AttemptPc → Bool
  | .checking | .readying | .activating | .waiting | .retrying => true
  | _ => false

def AttemptPc.polls : AttemptPc → Bool
  | .waiting | .retrying => true
  | _ => false

/-- The attempt is at its timer, which it could not start. -/
def AttemptPc.deletes : AttemptPc → Bool
  | .deleting _ => true
  | _ => false

def AttemptPc.afterDelete : Option StopPc → AttemptPc
  | some pc => .deleting pc
  | none => .returned false

def AttemptPc.running : AttemptPc → Bool
  | .unborn | .returned _ => false
  | _ => true

/-- `init_timeout_timer`: `NULL`, or a timer that was created or has expired, is armed, or was
stopped and is freed. -/
inductive TimerHandle
  | null
  | created
  | armed
  | freed
  deriving DecidableEq

/-- Where `process_init_event` is: at the timer, or before it looks at the event. -/
inductive ParsePc
  | stopping (pc : StopPc)
  | looking
  deriving DecidableEq

/-- Where a call of `teardown_transport` is: at the timer, before it tests `bus_handle`, closes the
bus, clears `bus_handle`, sets the state. -/
inductive TeardownPc
  | stopping (pc : StopPc)
  | testBus
  | deinit
  | clearBus
  | inactivate
  deriving DecidableEq

/-- The call is at the timer. -/
def TeardownPc.stops : TeardownPc → Bool
  | .stopping _ => true
  | _ => false

def TeardownPc.afterStop : Option StopPc → TeardownPc
  | some pc => .stopping pc
  | none => .testBus

def ParsePc.afterStop : Option StopPc → ParsePc
  | some pc => .stopping pc
  | none => .looking

/-- `reuses` says that `h_transport_init` of the port returns the bus that is open already. -/
structure PortConfig where
  reuses : Bool

/-- `settingUp` counts the calls of `setup_transport` that have found the transport inactive and are
going to call `h_transport_init`; `teardowns` are the calls of `teardown_transport`, and `parsing`
is that of `process_init_event`, if there is one. `timerFault` says that a timer was used that had
been freed, and `expired` that `init_timeout_cb` is going to restart the host. -/
structure Transport where
  transportState : TransportState
  buses : Objects
  busHandle : Option Nat
  initTimeoutTimer : TimerHandle
  timerFault : Bool
  retrySlaveConnection : Nat
  attempts : Nat
  attempt : Nat → AttemptPc
  settingUp : Nat
  teardowns : List TeardownPc
  parsing : Option ParsePc
  expired : Bool
  restarted : Bool

namespace Transport

def boot : Transport :=
  { transportState := .inactive, buses := .none, busHandle := none, initTimeoutTimer := .null,
    timerFault := false, retrySlaveConnection := 0, attempts := 0, attempt := fun _ => .unborn,
    settingUp := 0, teardowns := [], parsing := none, expired := false, restarted := false }

def setAttempt (s : Transport) (k : Nat) (pc : AttemptPc) : Transport :=
  { s with attempt := Function.update s.attempt k pc }

/-! ## Set-up -/

/-- `setup_transport` up to `h_transport_init`. -/
def setupTransport (s : Transport) : Transport :=
  if s.transportState = .inactive then { s with settingUp := s.settingUp + 1 } else s

/-- `h_transport_init(&bus_handle)`. -/
def transportInit (cfg : PortConfig) (ok : Bool) (s : Transport) : Option Transport :=
  if s.settingUp = 0 then none
  else if cfg.reuses = true ∧ s.busHandle ≠ none then some { s with settingUp := s.settingUp - 1 }
  else if ok then
    some { s with settingUp := s.settingUp - 1, buses := s.buses.create
                  busHandle := some s.buses.next }
  else some { s with settingUp := s.settingUp - 1, busHandle := none }

/-- `h_timer_stop`, which frees the timer, and refuses `NULL`. -/
def timerStop (s : Transport) : Transport :=
  { s with
    initTimeoutTimer := if s.initTimeoutTimer = .null then .null else .freed
    timerFault := s.timerFault || s.initTimeoutTimer = .freed }

/-- What a task that stops the timer does next, and where it goes then. -/
def stopExec (s : Transport) : StopPc → Transport × Option StopPc
  | .test => (s, if s.initTimeoutTimer = .null then none else some .stop)
  | .stop => (s.timerStop, some .clear)
  | .clear => ({ s with initTimeoutTimer := .null }, none)

/-- `h_transport_deinit(bus_handle)`, which refuses `NULL`. -/
def transportDeinit (s : Transport) : Transport :=
  { s with
    buses := match s.busHandle with
      | none => s.buses
      | some bus => s.buses.destroy bus }

/-- What a call of `teardown_transport` does next, and where it goes then. -/
def teardownExec (s : Transport) : TeardownPc → Transport × Option TeardownPc
  | .stopping pc => ((s.stopExec pc).1, some (.afterStop (s.stopExec pc).2))
  | .testBus => (s, some (if s.busHandle = none then .inactivate else .deinit))
  | .deinit => (s.transportDeinit, some .clearBus)
  | .clearBus => ({ s with busHandle := none }, some .inactivate)
  | .inactivate => ({ s with transportState := .inactive }, none)

/-- Call `i` goes on, or ends. -/
def advance (calls : List TeardownPc) (i : Nat) : Option TeardownPc → List TeardownPc
  | some pc => calls.set i pc
  | none => calls.eraseIdx i

def teardownStep (i : Nat) (s : Transport) : Option Transport :=
  (s.teardowns[i]?).map fun pc =>
    { (s.teardownExec pc).1 with teardowns := advance s.teardowns i (s.teardownExec pc).2 }

/-! ## Attempts -/

/-- `transport_drv_reconfigure` up to `h_timer_create`. -/
def reconfigure (createOk : Bool) (s : Transport) : Transport :=
  if s.initTimeoutTimer = .null then
    if createOk then
      { s.setAttempt s.attempts .arming with
        attempts := s.attempts + 1, initTimeoutTimer := .created }
    else { s.setAttempt s.attempts (.returned false) with attempts := s.attempts + 1 }
  else { s.setAttempt s.attempts .checking with attempts := s.attempts + 1 }

/-- `h_timer_start`, which fails if the pointer has become `NULL`. -/
def startTimer (k : Nat) (ok : Bool) (s : Transport) : Option Transport :=
  if s.attempt k = .arming then
    let fault := s.timerFault || s.initTimeoutTimer = .freed
    if ok = true ∧ s.initTimeoutTimer ≠ .null then
      some { s.setAttempt k .checking with initTimeoutTimer := .armed, timerFault := fault }
    else some { s.setAttempt k (.deleting .stop) with timerFault := fault }
  else none

/-- A timer that could not be started is deleted, and the pointer cleared. `h_timer_delete` frees
the timer as `h_timer_stop` does. -/
def deleteTimer (k : Nat) (s : Transport) : Option Transport :=
  match s.attempt k with
  | .deleting pc => some ((s.stopExec pc).1.setAttempt k (.afterDelete (s.stopExec pc).2))
  | _ => none

/-- The transport may be up already. -/
def check (k : Nat) (s : Transport) : Option Transport :=
  if s.attempt k = .checking then
    if s.transportState = .txActive then
      some { s.setAttempt k (.returned true) with retrySlaveConnection := 0 }
    else some (s.setAttempt k .readying)
  else none

/-- The state behind `h_bus_ready`: some ports activate the transport in there (`setsRx`). -/
def busState (setsRx : Bool) (s : Transport) : TransportState :=
  if setsRx then .rxActive else s.transportState

/-- `h_bus_ready`. -/
def busReady (k : Nat) (ok setsRx : Bool) (s : Transport) : Option Transport :=
  if s.attempt k = .readying then
    if ok then some { s.setAttempt k .activating with transportState := s.busState setsRx }
    else some (s.setAttempt k (.returned false))
  else none

def activate (k : Nat) (s : Transport) : Option Transport :=
  if s.attempt k = .activating then
    some { s.setAttempt k .waiting with transportState := .rxActive }
  else none

/-- One pass of the loop. `h_bus_ready` is called in every fiftieth one. -/
def poll (k : Nat) (s : Transport) : Option Transport :=
  if s.attempt k = .waiting then
    if s.transportState = .txActive then
      some { s.setAttempt k (.returned true) with retrySlaveConnection := 0 }
    else if s.retrySlaveConnection < maxRetryTransportActive then
      some { s.setAttempt k
        (if (s.retrySlaveConnection + 1) % 50 = 0 then .retrying else .waiting) with
        retrySlaveConnection := s.retrySlaveConnection + 1 }
    else some (s.setAttempt k (.returned false))
  else none

/-- `h_bus_ready` in the loop. -/
def retryBus (k : Nat) (ok setsRx : Bool) (s : Transport) : Option Transport :=
  if s.attempt k = .retrying then
    if ok then some { s.setAttempt k .waiting with transportState := s.busState setsRx }
    else some (s.setAttempt k (.returned false))
  else none

/-! ## INIT events -/

def initEvent (s : Transport) : Option Transport :=
  if s.parsing = none then some { s with parsing := some (.stopping .test) } else none

/-- `process_init_event` stops the timer before it looks at the event. -/
def initStop (s : Transport) : Option Transport :=
  match s.parsing with
  | some (.stopping pc) =>
    some { (s.stopExec pc).1 with parsing := some (.afterStop (s.stopExec pc).2) }
  | _ => none

/-- The rest of `process_init_event`, for an event that is rejected (it has 64 bytes or more, or
names no known chip) or accepted. -/
def processInitEvent (accepted : Bool) (s : Transport) : Option Transport :=
  if s.parsing = some .looking then
    some { s with
      parsing := none
      transportState := if accepted then .txActive else s.transportState }
  else none

/-- The time is over, and the timer does not run any more. -/
def expire (s : Transport) : Option Transport :=
  if s.initTimeoutTimer = .armed then
    some { s with initTimeoutTimer := .created, expired := true }
  else none

/-- `init_timeout_cb`, which may have been called before the timer was stopped. -/
def initTimeoutCb (s : Transport) : Option Transport :=
  if s.expired then some { s with restarted := true } else none

inductive Action
  | setup
  | transportInit (ok : Bool)
  | teardown
  | teardownStep (i : Nat)
  | reconfigure (createOk : Bool)
  | startTimer (k : Nat) (ok : Bool)
  | deleteTimer (k : Nat)
  | check (k : Nat)
  | busReady (k : Nat) (ok setsRx : Bool)
  | activate (k : Nat)
  | poll (k : Nat)
  | retryBus (k : Nat) (ok setsRx : Bool)
  | initEvent
  | initStop
  | processInitEvent (accepted : Bool)
  | expire
  | initTimeoutCb

/-- One step; nothing happens behind a restart. -/
def step (cfg : PortConfig) (s : Transport) (a : Action) : Option Transport :=
  if s.restarted then none
  else
    match a with
    | .setup => some s.setupTransport
    | .transportInit ok => s.transportInit cfg ok
    | .teardown => some { s with teardowns := s.teardowns ++ [.stopping .test] }
    | .teardownStep i => s.teardownStep i
    | .reconfigure createOk => some (s.reconfigure createOk)
    | .startTimer k ok => s.startTimer k ok
    | .deleteTimer k => s.deleteTimer k
    | .check k => s.check k
    | .busReady k ok setsRx => s.busReady k ok setsRx
    | .activate k => s.activate k
    | .poll k => s.poll k
    | .retryBus k ok setsRx => s.retryBus k ok setsRx
    | .initEvent => s.initEvent
    | .initStop => s.initStop
    | .processInitEvent accepted => s.processInitEvent accepted
    | .expire => s.expire
    | .initTimeoutCb => s.initTimeoutCb

/-! ## What the steps preserve -/

variable {cfg : PortConfig} {s s' : Transport}

/-- `process_init_event` is at the timer. -/
def stopping (s : Transport) : Bool :=
  match s.parsing with
  | some (.stopping _) => true
  | _ => false

/-- No attempt is at a timer that it could not start. -/
def Undeleted (s : Transport) : Prop := ∀ k ∈ List.range s.attempts, (s.attempt k).deletes = false

instance (s : Transport) : Decidable s.Undeleted := inferInstanceAs (Decidable (∀ _ ∈ _, _))

/-- The bus is opened when there is none, and not while another call of `setup_transport` or
`teardown_transport` is under way; `teardown_transport` is called while neither of them is, and not
while an INIT event stops the timer, nor the other way round, and neither while an attempt deletes a
timer that it could not start; attempts do not overlap, the timer is started while the transport is
not active and neither an INIT event nor `teardown_transport` is at it, and an attempt that has gone
so far fails only when one of them has stopped the timer, and not while it polls. When the time is
over, no INIT event is accepted and no attempt fails. -/
def Careful (cfg : PortConfig) (s : Transport) : Action → Prop
  | .setup => s.transportState = .inactive →
      s.settingUp = 0 ∧ s.teardowns = [] ∧ (s.busHandle = none ∨ cfg.reuses = true)
  | .teardown => s.settingUp = 0 ∧ s.teardowns = [] ∧ s.stopping = false ∧ s.Undeleted
  | .initEvent => (∀ pc ∈ s.teardowns, pc.stops = false) ∧ s.Undeleted
  | .reconfigure _ => ∀ k ∈ List.range s.attempts, (s.attempt k).running = false
  | .startTimer _ _ => s.transportState ≠ .txActive ∧ s.parsing = none ∧
      ∀ pc ∈ s.teardowns, pc.stops = false
  | .busReady _ ok _ => ok = true ∨ (s.initTimeoutTimer ≠ .armed ∧ s.expired = false)
  | .poll _ =>
      s.transportState = .txActive ∨ s.retrySlaveConnection < maxRetryTransportActive
  | .retryBus _ ok _ => ok = true
  | .processInitEvent accepted => accepted = true → s.expired = false
  | _ => True

instance (cfg : PortConfig) (s : Transport) (a : Action) : Decidable (Careful cfg s a) := by
  unfold Careful
  split <;> infer_instance

/-- One call of `setup_transport` or `teardown_transport` is under way at most, and one task at most
is at the timer; `bus_handle` names the bus unless it has just been closed. -/
structure Inv (cfg : PortConfig) (s : Transport) : Prop where
  bus : s.buses.Owns (if .clearBus ∈ s.teardowns then [] else s.busHandle.toList)
  alone : s.settingUp + s.teardowns.length ≤ 1
  opening : s.settingUp ≠ 0 → s.busHandle = none ∨ cfg.reuses = true
  stopper : s.stopping = true → ∀ pc ∈ s.teardowns, pc.stops = false
  deleter : ∀ k, (s.attempt k).deletes = true →
    s.stopping = false ∧ ∀ pc ∈ s.teardowns, pc.stops = false
  freed : s.initTimeoutTimer = .freed → s.parsing = some (.stopping .clear) ∨
    .stopping .clear ∈ s.teardowns ∨ ∃ k, s.attempt k = .deleting .clear
  fault : s.timerFault = false
  idle : s.initTimeoutTimer = .armed →
    s.transportState ≠ .txActive ∧ s.parsing ≠ some .looking
  armed : s.initTimeoutTimer = .armed → ∃ k, (s.attempt k).connecting = true
  expired : s.expired = true →
    s.transportState ≠ .txActive ∧ ∃ k, (s.attempt k).connecting = true
  single : ∀ j k, (s.attempt j).running = true → (s.attempt k).running = true → j = k
  retries : s.retrySlaveConnection ≠ 0 → ∃ k, (s.attempt k).polls = true
  unborn : ∀ k, s.attempts ≤ k → s.attempt k = .unborn

theorem boot_inv (cfg : PortConfig) : boot.Inv cfg where
  bus := .none
  alone := Nat.zero_le _
  opening := fun h => absurd rfl h
  stopper := nofun
  deleter := nofun
  freed := nofun
  fault := rfl
  idle := nofun
  armed := nofun
  expired := nofun
  single := nofun
  retries := fun h => absurd rfl h
  unborn := fun _ _ => rfl

theorem AttemptPc.running_of_connecting {pc : AttemptPc} (h : pc.connecting = true) :
    pc.running = true := by
  cases pc with
  | checking | readying | activating | waiting | retrying => rfl
  | unborn | arming | deleting | returned => cases h

theorem AttemptPc.running_of_deletes {pc : AttemptPc} (h : pc.deletes = true) :
    pc.running = true := by
  cases pc with
  | deleting => rfl
  | unborn | arming | checking | readying | activating | waiting | retrying | returned => cases h

theorem AttemptPc.running_of_polls {pc : AttemptPc} (h : pc.polls = true) : pc.running = true := by
  cases pc with
  | waiting | retrying => rfl
  | unborn | arming | deleting | checking | readying | activating | returned => cases h

/-- Only an attempt that polls has retried. -/
theorem Inv.retries_zero (h : s.Inv cfg) {k : Nat} (hRunning : (s.attempt k).running = true)
    (hPc : (s.attempt k).polls = false) : s.retrySlaveConnection = 0 := by
  by_contra hNe
  obtain ⟨j, hj⟩ := h.retries hNe
  have hEq := h.single j k (AttemptPc.running_of_polls hj) hRunning
  rw [hEq, hPc] at hj
  cases hj

/-- An attempt that is elsewhere has not freed the timer. -/
theorem Inv.freed_elsewhere (h : s.Inv cfg) {k : Nat} (hRunning : (s.attempt k).running = true)
    (hPc : (s.attempt k).deletes = false) (hFreed : s.initTimeoutTimer = .freed) :
    s.parsing = some (.stopping .clear) ∨ .stopping .clear ∈ s.teardowns := by
  rcases h.freed hFreed with hParsing | hMem | ⟨j, hj⟩
  · exact Or.inl hParsing
  · exact Or.inr hMem
  · have hEq := h.single j k (by rw [hj]; rfl) hRunning
    rw [← hEq, hj] at hPc
    cases hPc

/-- The timer is armed for no other attempt. -/
theorem Inv.unarmed_elsewhere (h : s.Inv cfg) {k : Nat} (hRunning : (s.attempt k).running = true)
    (hPc : (s.attempt k).connecting = false) : s.initTimeoutTimer ≠ .armed := by
  intro hArmed
  obtain ⟨j, hj⟩ := h.armed hArmed
  have hEq := h.single j k (AttemptPc.running_of_connecting hj) hRunning
  rw [hEq, hPc] at hj
  cases hj

/-- The time is over for no other attempt. -/
theorem Inv.unexpired_elsewhere (h : s.Inv cfg) {k : Nat} (hRunning : (s.attempt k).running = true)
    (hPc : (s.attempt k).connecting = false) : s.expired ≠ true := by
  intro hExpired
  obtain ⟨-, j, hj⟩ := h.expired hExpired
  have hEq := h.single j k (AttemptPc.running_of_connecting hj) hRunning
  rw [hEq, hPc] at hj
  cases hj

theorem Inv.undeleted (h : s.Inv cfg) (hNone : s.Undeleted) (k : Nat) :
    (s.attempt k).deletes = false := by
  by_cases hk : k < s.attempts
  · exact hNone k (List.mem_range.mpr hk)
  · rw [h.unborn k (by omega)]
    rfl

/-- The attempt that is running goes on, or returns. -/
theorem Inv.move (h : s.Inv cfg) {k : Nat} {pc : AttemptPc} {state : TransportState}
    {timer : TimerHandle} {fault : Bool} {retry : Nat} (hRunning : (s.attempt k).running = true)
    (hTimer : timer = .armed →
      state ≠ .txActive ∧ s.parsing ≠ some .looking ∧ pc.connecting = true)
    (hDeletes : pc.deletes = true → s.stopping = false ∧ ∀ pc ∈ s.teardowns, pc.stops = false)
    (hFreed : timer = .freed → s.parsing = some (.stopping .clear) ∨
      .stopping .clear ∈ s.teardowns ∨ pc = .deleting .clear)
    (hExpired : s.expired = true → state ≠ .txActive ∧ pc.connecting = true)
    (hFault : fault = false) (hRetry : retry ≠ 0 → pc.polls = true) :
    Inv cfg { s.setAttempt k pc with
      transportState := state, initTimeoutTimer := timer, timerFault := fault
      retrySlaveConnection := retry } := by
  have hSelf : (s.setAttempt k pc).attempt k = pc := Function.update_self ..
  have hOther (j : Nat) (hNe : j ≠ k) : (s.setAttempt k pc).attempt j = s.attempt j :=
    Function.update_of_ne hNe _ _
  have hOnly (j : Nat) (hj : ((s.setAttempt k pc).attempt j).running = true) : j = k := by
    by_contra hNe
    rw [hOther j hNe] at hj
    exact hNe (h.single j k hj hRunning)
  refine ⟨h.bus, h.alone, h.opening, h.stopper, fun j hj => ?_, fun hNow => ?_, hFault,
    fun hArmed => ⟨(hTimer hArmed).1, (hTimer hArmed).2.1⟩, ?_, fun hOver => ?_, ?_, ?_, ?_⟩
  · by_cases hEq : j = k
    · subst hEq
      exact hDeletes (hSelf.symm ▸ hj)
    · exact h.deleter j (hOther j hEq ▸ hj)
  · exact (hFreed hNow).imp_right fun hRest => hRest.imp_right fun hPc => ⟨k, hSelf.trans hPc⟩
  · exact fun hArmed => ⟨k, hSelf.symm ▸ (hTimer hArmed).2.2⟩
  · exact ⟨(hExpired hOver).1, k, hSelf.symm ▸ (hExpired hOver).2⟩
  · exact fun i j hi hj => (hOnly i hi).trans (hOnly j hj).symm
  · exact fun hNe => ⟨k, hSelf.symm ▸ hRetry hNe⟩
  · intro j hj
    have hOld := h.unborn j hj
    have hNe : j ≠ k := by
      rintro rfl
      rw [hOld] at hRunning
      cases hRunning
    exact (hOther j hNe).trans hOld

/-! ### Set-up -/

theorem setup_inv (h : s.Inv cfg) (hCareful : Careful cfg s .setup) :
    s.setupTransport.Inv cfg := by
  unfold setupTransport
  split
  · rename_i hState
    obtain ⟨hNone, hIdle, hBus⟩ := hCareful hState
    refine { h with alone := ?_, opening := fun _ => hBus }
    show s.settingUp + 1 + s.teardowns.length ≤ 1
    rw [hNone, hIdle]
    exact Nat.le_refl _
  · exact h

/-- Who is going to open the bus is alone. -/
theorem Inv.noTeardown (h : s.Inv cfg) (hSetting : s.settingUp ≠ 0) : s.teardowns = [] := by
  have hAlone := h.alone
  exact List.eq_nil_of_length_eq_zero (by omega)

theorem transportInit_inv {ok : Bool} (h : s.Inv cfg)
    (hStep : s.transportInit cfg ok = some s') : s'.Inv cfg := by
  unfold transportInit at hStep
  split at hStep
  · cases hStep
  · rename_i hSetting
    have hIdle := h.noTeardown hSetting
    have hAlone : s.settingUp - 1 + s.teardowns.length ≤ 1 :=
      Nat.le_trans (Nat.add_le_add_right (Nat.sub_le _ _) _) h.alone
    have hOpening := h.opening hSetting
    have hBus := h.bus
    rw [hIdle, if_neg List.not_mem_nil] at hBus
    split at hStep
    · cases hStep
      exact { h with alone := hAlone, opening := fun _ => hOpening }
    · rename_i hOpen
      have hNone : s.busHandle = none := by
        rcases hOpening with hNone | hReuses
        · exact hNone
        · by_contra hSome
          exact hOpen ⟨hReuses, hSome⟩
      have hRest : s.settingUp - 1 ≠ 0 → False := by
        have hOne := h.alone
        omega
      rw [hNone] at hBus
      split at hStep
      · cases hStep
        refine { h with bus := ?_, alone := hAlone, opening := fun hNe => (hRest hNe).elim }
        rw [show (_ : Transport).teardowns = [] from hIdle, if_neg List.not_mem_nil]
        exact hBus.create
      · cases hStep
        refine { h with bus := ?_, alone := hAlone, opening := fun hNe => (hRest hNe).elim }
        rw [show (_ : Transport).teardowns = [] from hIdle, if_neg List.not_mem_nil]
        exact hBus

/-! ### Stopping the timer -/

/-- What a task at the timer relies on: nobody has freed it but himself. -/
structure AtTimer (s : Transport) (pc : StopPc) : Prop where
  own : s.initTimeoutTimer = .freed → pc = .clear
  fault : s.timerFault = false

/-- What comes of it: the timer is not armed anew, and is freed only by a task that is going to
clear the pointer. -/
theorem AtTimer.exec {pc : StopPc} (h : s.AtTimer pc) :
    ∃ timer, (s.stopExec pc).1 = { s with initTimeoutTimer := timer } ∧
      (timer = .armed → s.initTimeoutTimer = .armed ∧ (s.stopExec pc).2 ≠ none) ∧
      (timer = .freed → (s.stopExec pc).2 = some .clear) := by
  cases pc with
  | test =>
    refine ⟨s.initTimeoutTimer, rfl, fun hArmed => ⟨hArmed, ?_⟩, fun hFreed => ?_⟩
    · simp only [stopExec, hArmed]
      nofun
    · cases h.own hFreed
  | stop =>
    have hFault : (s.timerFault || s.initTimeoutTimer = .freed) = s.timerFault := by
      rw [h.fault, Bool.false_or]
      exact decide_eq_false fun hFreed => nomatch h.own hFreed
    refine ⟨if s.initTimeoutTimer = .null then .null else .freed, ?_, fun hArmed => ?_,
      fun _ => rfl⟩
    · simp only [stopExec, timerStop, hFault]
    · split at hArmed <;> cases hArmed
  | clear => exact ⟨.null, rfl, nofun, nofun⟩

/-- A call of `teardown_transport` is alone. -/
theorem Inv.onlyTeardown (h : s.Inv cfg) {i : Nat} {pc : TeardownPc}
    (hi : s.teardowns[i]? = some pc) : i = 0 ∧ s.teardowns = [pc] ∧ s.settingUp = 0 := by
  have hAlone := h.alone
  obtain ⟨hLt, hEq⟩ := List.getElem?_eq_some_iff.mp hi
  have hZero : i = 0 := by omega
  have hLength : s.teardowns.length = 1 := by omega
  obtain ⟨pc', hList⟩ := List.length_eq_one_iff.mp hLength
  subst hZero
  rw [hList] at hi
  cases hi
  exact ⟨rfl, hList, by omega⟩

/-- The call of `teardown_transport` goes on at the timer. -/
theorem stopTeardown_inv (h : s.Inv cfg) {pc : StopPc} (hOnly : s.teardowns = [.stopping pc])
    (hSetting : s.settingUp = 0) :
    Inv cfg { (s.stopExec pc).1 with teardowns := [.afterStop (s.stopExec pc).2] } := by
  have hQuiet : s.stopping = false := by
    by_contra hStopping
    have hNot := h.stopper (by simpa using hStopping) (.stopping pc) (hOnly ▸ List.mem_cons_self)
    cases hNot
  have hNone (k : Nat) : (s.attempt k).deletes = false := by
    by_contra hDeletes
    have hNot := (h.deleter k (by simpa using hDeletes)).2 (.stopping pc)
      (hOnly ▸ List.mem_cons_self)
    cases hNot
  have hAt : s.AtTimer pc := by
    refine ⟨fun hFreed => ?_, h.fault⟩
    rcases h.freed hFreed with hParsing | hMem | ⟨k, hk⟩
    · unfold stopping at hQuiet
      rw [hParsing] at hQuiet
      cases hQuiet
    · rw [hOnly] at hMem
      cases List.mem_singleton.mp hMem
      rfl
    · have hNot := hNone k
      rw [hk] at hNot
      cases hNot
  obtain ⟨timer, hSame, hArmed, hFreed⟩ := hAt.exec
  have hBus := h.bus
  rw [hOnly, if_neg (by simp)] at hBus
  rw [hSame]
  generalize (s.stopExec pc).2 = next at hArmed hFreed ⊢
  refine { h with bus := ?_, alone := ?_, stopper := ?_, deleter := ?_, freed := ?_, idle := ?_
                  armed := ?_ }
  · rw [if_neg (by cases next <;> simp [TeardownPc.afterStop])]
    exact hBus
  · show s.settingUp + 1 ≤ 1
    rw [hSetting]
  · intro hStopping
    exact absurd (hQuiet.symm.trans hStopping) Bool.false_ne_true
  · intro k hk
    exact absurd ((hNone k).symm.trans hk) Bool.false_ne_true
  · intro hNow
    refine Or.inr (Or.inl ?_)
    rw [hFreed hNow]
    exact List.mem_cons_self
  · exact fun hNow => h.idle (hArmed hNow).1
  · exact fun hNow => h.armed (hArmed hNow).1

/-- Behind the timer, what a call of `teardown_transport` does concerns the bus and the state. -/
theorem Inv.tear (h : s.Inv cfg) {pc : TeardownPc} (hOnly : s.teardowns = [pc])
    (hStops : pc.stops = false) {buses : Objects} {handle : Option Nat} {state : TransportState}
    {calls : List TeardownPc} (hBus : buses.Owns (if .clearBus ∈ calls then [] else handle.toList))
    (hCalls : calls.length ≤ 1) (hQuiet : ∀ pc ∈ calls, pc.stops = false)
    (hState : state = .txActive → s.transportState = .txActive) :
    Inv cfg { s with buses := buses, busHandle := handle, transportState := state
                     teardowns := calls } := by
  have hSetting : s.settingUp = 0 := by
    have hAlone := h.alone
    rw [hOnly, List.length_singleton] at hAlone
    omega
  refine { h with bus := hBus, alone := ?_, opening := fun hNe => absurd hSetting hNe
                  stopper := fun _ => hQuiet, deleter := fun k hk => ⟨(h.deleter k hk).1, hQuiet⟩
                  freed := fun hFreed => ?_, idle := fun hArmed => ?_, expired := fun hOver => ?_ }
  · show s.settingUp + calls.length ≤ 1
    omega
  · refine (h.freed hFreed).imp_right fun hRest => Or.inr (hRest.resolve_left fun hMem => ?_)
    rw [hOnly] at hMem
    rw [← List.mem_singleton.mp hMem] at hStops
    cases hStops
  · obtain ⟨hOff, hParsing⟩ := h.idle hArmed
    exact ⟨fun hOn => hOff (hState hOn), hParsing⟩
  · exact ⟨fun hOn => (h.expired hOver).1 (hState hOn), (h.expired hOver).2⟩

theorem teardown_inv (h : s.Inv cfg) (hCareful : Careful cfg s .teardown) :
    Inv cfg { s with teardowns := s.teardowns ++ [.stopping .test] } := by
  obtain ⟨hSetting, hNone, hQuiet, hUndeleted⟩ := hCareful
  have hBus := h.bus
  rw [hNone, if_neg List.not_mem_nil] at hBus
  refine { h with bus := ?_, alone := ?_, stopper := fun hStopping => ?_, deleter := fun k hk => ?_
                  freed := fun hFreed => ?_ }
  · rw [hNone, if_neg (by simp)]
    exact hBus
  · rw [hNone]
    show s.settingUp + 1 ≤ 1
    rw [hSetting]
  · exact absurd (hQuiet.symm.trans hStopping) Bool.false_ne_true
  · exact absurd ((h.undeleted hUndeleted k).symm.trans hk) Bool.false_ne_true
  · exact (h.freed hFreed).imp_right (Or.imp_left (List.mem_append_left _))

theorem teardownStep_inv {i : Nat} (h : s.Inv cfg) (hStep : s.teardownStep i = some s') :
    s'.Inv cfg := by
  obtain ⟨pc, hi, rfl⟩ := Option.map_eq_some_iff.mp hStep
  obtain ⟨rfl, hOnly, hSetting⟩ := h.onlyTeardown hi
  have hBus := h.bus
  rw [hOnly] at hBus ⊢
  cases pc with
  | stopping pc => exact stopTeardown_inv h hOnly hSetting
  | testBus =>
    rw [if_neg (by simp)] at hBus
    refine h.tear hOnly rfl ?_ (Nat.le_refl _) (fun pc hMem => ?_) id
    · rwa [if_neg]
      simp only [teardownExec, advance, List.set_cons_zero, List.mem_singleton]
      split <;> nofun
    · rw [List.mem_singleton.mp hMem]
      split <;> rfl
  | deinit =>
    rw [if_neg (by simp)] at hBus
    have hQuiet : ∀ pc ∈ [TeardownPc.clearBus], pc.stops = false := by simp [TeardownPc.stops]
    refine h.tear hOnly rfl ?_ (Nat.le_refl _) hQuiet id
    rw [if_pos (by simp [advance, teardownExec])]
    show Objects.Owns (match s.busHandle with
      | none => s.buses
      | some bus => s.buses.destroy bus) []
    cases hHandle : s.busHandle with
    | none => rwa [hHandle] at hBus
    | some bus =>
      rw [hHandle] at hBus
      exact hBus.destroy
  | clearBus =>
    rw [if_pos (by simp)] at hBus
    have hQuiet : ∀ pc ∈ [TeardownPc.inactivate], pc.stops = false := by simp [TeardownPc.stops]
    exact h.tear hOnly rfl hBus (Nat.le_refl _) hQuiet id
  | inactivate =>
    rw [if_neg (by simp)] at hBus
    exact h.tear hOnly rfl hBus (Nat.zero_le _) nofun nofun

theorem reconfigure_inv {createOk : Bool} (h : s.Inv cfg)
    (hCareful : Careful cfg s (.reconfigure createOk)) : (s.reconfigure createOk).Inv cfg := by
  have hRest (k : Nat) : (s.attempt k).running = false := by
    by_cases hk : k < s.attempts
    · exact hCareful k (List.mem_range.mpr hk)
    · rw [h.unborn k (by omega)]
      rfl
  have hUnarmed : s.initTimeoutTimer ≠ .armed := by
    intro hArmed
    obtain ⟨k, hk⟩ := h.armed hArmed
    have hRunning := AttemptPc.running_of_connecting hk
    rw [hRest k] at hRunning
    cases hRunning
  have hZero : s.retrySlaveConnection = 0 := by
    by_contra hNe
    obtain ⟨k, hk⟩ := h.retries hNe
    have hRunning := AttemptPc.running_of_polls hk
    rw [hRest k] at hRunning
    cases hRunning
  -- a new attempt, with a timer that is not armed
  have hNew (pc : AttemptPc) (timer : TimerHandle) (hDeletes : pc.deletes = false)
        (hTimer : timer ≠ .armed) (hFreed : timer = .freed → s.initTimeoutTimer = .freed) :
      Inv cfg { s.setAttempt s.attempts pc with
        attempts := s.attempts + 1, initTimeoutTimer := timer } := by
    have hOnly (j : Nat) (hj : (Function.update s.attempt s.attempts pc j).running = true) :
        j = s.attempts := by
      by_contra hNe
      rw [Function.update_of_ne hNe, hRest j] at hj
      cases hj
    refine { h with
      deleter := ?_
      freed := fun hNow => ?_
      idle := fun hArmed => absurd hArmed hTimer
      armed := fun hArmed => absurd hArmed hTimer
      expired := fun hOver => ?_
      single := ?_
      retries := fun hNe => absurd hZero hNe
      unborn := ?_ }
    · intro j hj
      replace hj : (Function.update s.attempt s.attempts pc j).deletes = true := hj
      obtain rfl := hOnly j (AttemptPc.running_of_deletes hj)
      rw [Function.update_self, hDeletes] at hj
      cases hj
    · rcases h.freed (hFreed hNow) with hParsing | hMem | ⟨k, hk⟩
      · exact Or.inl hParsing
      · exact Or.inr (Or.inl hMem)
      · have hRunning := hRest k
        rw [hk] at hRunning
        cases hRunning
    · obtain ⟨-, k, hk⟩ := h.expired hOver
      have hRunning := AttemptPc.running_of_connecting hk
      rw [hRest k] at hRunning
      cases hRunning
    · exact fun i j hi hj => (hOnly i hi).trans (hOnly j hj).symm
    · intro j hj
      dsimp only at hj
      have hNe : j ≠ s.attempts := by omega
      exact (Function.update_of_ne hNe _ _).trans (h.unborn j (by omega))
  unfold reconfigure
  split
  · split
    · exact hNew _ _ rfl nofun nofun
    · exact hNew _ _ rfl hUnarmed id
  · exact hNew _ _ rfl hUnarmed id

theorem startTimer_inv {k : Nat} {ok : Bool} (h : s.Inv cfg)
    (hCareful : Careful cfg s (.startTimer k ok)) (hStep : s.startTimer k ok = some s') :
    s'.Inv cfg := by
  unfold startTimer at hStep
  split at hStep
  · rename_i hPc
    have hRunning : (s.attempt k).running = true := by rw [hPc]; rfl
    have hZero := h.retries_zero hRunning (by rw [hPc]; rfl)
    obtain ⟨hOff, hQuiet, hTeardowns⟩ := hCareful
    have hStopping : s.stopping = false := by
      unfold stopping
      rw [hQuiet]
    -- nobody is at the timer, so it has not been freed
    have hFresh : s.initTimeoutTimer ≠ .freed := by
      intro hFreed
      rcases h.freed_elsewhere hRunning (by rw [hPc]; rfl) hFreed with hParsing | hMem
      · rw [hQuiet] at hParsing
        cases hParsing
      · cases hTeardowns _ hMem
    have hFault : (s.timerFault || s.initTimeoutTimer = .freed) = false := by
      rw [h.fault, Bool.false_or]
      exact decide_eq_false hFresh
    have hInTime := h.unexpired_elsewhere hRunning (by rw [hPc]; rfl)
    dsimp only at hStep
    split at hStep
    · cases hStep
      refine h.move hRunning (fun _ => ⟨hOff, ?_, rfl⟩) nofun nofun
        (fun hOver => absurd hOver hInTime) hFault (fun hNe => absurd hZero hNe)
      rw [hQuiet]
      nofun
    · cases hStep
      have hUnarmed := h.unarmed_elsewhere hRunning (by rw [hPc]; rfl)
      exact h.move hRunning (fun hArmed => absurd hArmed hUnarmed)
        (fun _ => ⟨hStopping, hTeardowns⟩) (fun hFreed => absurd hFreed hFresh)
        (fun hOver => absurd hOver hInTime) hFault (fun hNe => absurd hZero hNe)
  · cases hStep

/-- An attempt that could not start its timer is the only task there. -/
theorem deleteTimer_inv {k : Nat} (h : s.Inv cfg) (hStep : s.deleteTimer k = some s') :
    s'.Inv cfg := by
  unfold deleteTimer at hStep
  split at hStep
  · rename_i pc hPc
    cases hStep
    have hRunning : (s.attempt k).running = true := by rw [hPc]; rfl
    have hZero := h.retries_zero hRunning (by rw [hPc]; rfl)
    obtain ⟨hStopping, hTeardowns⟩ := h.deleter k (by rw [hPc]; rfl)
    have hUnarmed := h.unarmed_elsewhere hRunning (by rw [hPc]; rfl)
    have hAt : s.AtTimer pc := by
      refine ⟨fun hFreed => ?_, h.fault⟩
      rcases h.freed hFreed with hParsing | hMem | ⟨j, hj⟩
      · unfold stopping at hStopping
        rw [hParsing] at hStopping
        cases hStopping
      · cases hTeardowns _ hMem
      · have hEq := h.single j k (by rw [hj]; rfl) hRunning
        rw [hEq, hPc] at hj
        cases hj
        rfl
    obtain ⟨timer, hSame, hArmed, hFreed⟩ := hAt.exec
    rw [hSame]
    generalize (s.stopExec pc).2 = next at hArmed hFreed ⊢
    have hInTime := h.unexpired_elsewhere hRunning (by rw [hPc]; rfl)
    refine h.move hRunning (fun hNow => absurd (hArmed hNow).1 hUnarmed)
      (fun _ => ⟨hStopping, hTeardowns⟩) (fun hNow => Or.inr (Or.inr ?_))
      (fun hOver => absurd hOver hInTime) h.fault (fun hNe => absurd hZero hNe)
    rw [hFreed hNow]
    rfl
  · cases hStep

/-- An attempt that goes on leaves the timer alone. -/
theorem Inv.connect (h : s.Inv cfg) {k : Nat} {pc : AttemptPc} {state : TransportState}
    {retry : Nat} (hRunning : (s.attempt k).running = true)
    (hOld : (s.attempt k).deletes = false) (hPc : pc.connecting = true)
    (hState : state = .txActive → s.transportState = .txActive)
    (hRetry : retry ≠ 0 → pc.polls = true) :
    Inv cfg { s.setAttempt k pc with
      transportState := state, retrySlaveConnection := retry } := by
  refine h.move hRunning ?_ ?_ ?_ (fun hOver => ?_) h.fault hRetry
  · intro hArmed
    obtain ⟨hOff, hParsing⟩ := h.idle hArmed
    exact ⟨fun hOn => hOff (hState hOn), hParsing, hPc⟩
  · cases pc with
    | deleting => cases hPc
    | _ => nofun
  · exact fun hFreed => (h.freed_elsewhere hRunning hOld hFreed).imp_right Or.inl
  · exact ⟨fun hOn => (h.expired hOver).1 (hState hOn), hPc⟩

/-- An attempt returns with the timer stopped in time. -/
theorem Inv.return (h : s.Inv cfg) {k : Nat} {ok : Bool} {retry : Nat}
    (hRunning : (s.attempt k).running = true) (hOld : (s.attempt k).deletes = false)
    (hTimer : s.initTimeoutTimer ≠ .armed ∧ s.expired = false) (hZero : retry = 0) :
    Inv cfg { s.setAttempt k (.returned ok) with retrySlaveConnection := retry } :=
  h.move hRunning (fun hArmed => absurd hArmed hTimer.1) nofun
    (fun hFreed => (h.freed_elsewhere hRunning hOld hFreed).imp_right Or.inl)
    (fun hOver => absurd (hTimer.2.symm.trans hOver) Bool.false_ne_true) h.fault
    (fun hNe => absurd hZero hNe)

theorem Inv.unarmed (h : s.Inv cfg) (hTx : s.transportState = .txActive) :
    s.initTimeoutTimer ≠ .armed ∧ s.expired = false := by
  refine ⟨fun hArmed => (h.idle hArmed).1 hTx, ?_⟩
  by_contra hOver
  exact (h.expired (by simpa using hOver)).1 hTx

theorem check_inv {k : Nat} (h : s.Inv cfg) (hStep : s.check k = some s') : s'.Inv cfg := by
  unfold check at hStep
  split at hStep
  · rename_i hPc
    have hRunning : (s.attempt k).running = true := by rw [hPc]; rfl
    have hOld : (s.attempt k).deletes = false := by rw [hPc]; rfl
    have hZero := h.retries_zero hRunning (by rw [hPc]; rfl)
    split at hStep
    · rename_i hTx
      cases hStep
      exact h.return hRunning hOld (h.unarmed hTx) rfl
    · cases hStep
      exact h.connect hRunning hOld rfl id (fun hNe => absurd hZero hNe)
  · cases hStep

theorem busState_eq_txActive {setsRx : Bool} (h : s.busState setsRx = .txActive) :
    s.transportState = .txActive := by
  unfold busState at h
  split at h
  · cases h
  · exact h

theorem busReady_inv {k : Nat} {ok setsRx : Bool} (h : s.Inv cfg)
    (hCareful : Careful cfg s (.busReady k ok setsRx))
    (hStep : s.busReady k ok setsRx = some s') : s'.Inv cfg := by
  unfold busReady at hStep
  split at hStep
  · rename_i hPc
    have hRunning : (s.attempt k).running = true := by rw [hPc]; rfl
    have hOld : (s.attempt k).deletes = false := by rw [hPc]; rfl
    have hZero := h.retries_zero hRunning (by rw [hPc]; rfl)
    split at hStep
    · cases hStep
      exact h.connect hRunning hOld rfl busState_eq_txActive (fun hNe => absurd hZero hNe)
    · rename_i hFail
      cases hStep
      exact h.return hRunning hOld (hCareful.resolve_left hFail) hZero
  · cases hStep

theorem activate_inv {k : Nat} (h : s.Inv cfg) (hStep : s.activate k = some s') : s'.Inv cfg := by
  unfold activate at hStep
  split at hStep
  · rename_i hPc
    cases hStep
    exact h.connect (by rw [hPc]; rfl) (by rw [hPc]; rfl) rfl nofun fun _ => rfl
  · cases hStep

theorem poll_inv {k : Nat} (h : s.Inv cfg) (hCareful : Careful cfg s (.poll k))
    (hStep : s.poll k = some s') : s'.Inv cfg := by
  unfold poll at hStep
  split at hStep
  · rename_i hPc
    have hRunning : (s.attempt k).running = true := by rw [hPc]; rfl
    have hOld : (s.attempt k).deletes = false := by rw [hPc]; rfl
    split at hStep
    · rename_i hTx
      cases hStep
      exact h.return hRunning hOld (h.unarmed hTx) rfl
    · rename_i hTx
      rw [if_pos (hCareful.resolve_left hTx)] at hStep
      cases hStep
      split
      · exact h.connect hRunning hOld rfl id fun _ => rfl
      · exact h.connect hRunning hOld rfl id fun _ => rfl
  · cases hStep

theorem retryBus_inv {k : Nat} {ok setsRx : Bool} (h : s.Inv cfg)
    (hCareful : Careful cfg s (.retryBus k ok setsRx))
    (hStep : s.retryBus k ok setsRx = some s') : s'.Inv cfg := by
  unfold retryBus at hStep
  split at hStep
  · rename_i hPc
    rw [if_pos (show ok = true from hCareful)] at hStep
    cases hStep
    exact h.connect (by rw [hPc]; rfl) (by rw [hPc]; rfl) rfl busState_eq_txActive fun _ => rfl
  · cases hStep

/-! ### INIT events -/

theorem initEvent_inv (h : s.Inv cfg) (hCareful : Careful cfg s .initEvent)
    (hStep : s.initEvent = some s') : s'.Inv cfg := by
  unfold initEvent at hStep
  split at hStep
  · rename_i hNone
    cases hStep
    refine { h with stopper := fun _ => hCareful.1, deleter := fun k hk => ?_
                    freed := fun hFreed => ?_, idle := fun hArmed => ?_ }
    · exact absurd ((h.undeleted hCareful.2 k).symm.trans hk) Bool.false_ne_true
    · rcases h.freed hFreed with hParsing | hRest
      · rw [hNone] at hParsing
        cases hParsing
      · exact Or.inr hRest
    · exact ⟨(h.idle hArmed).1, nofun⟩
  · cases hStep

theorem initStop_inv (h : s.Inv cfg) (hStep : s.initStop = some s') : s'.Inv cfg := by
  unfold initStop at hStep
  split at hStep
  · rename_i pc hParsing
    cases hStep
    have hStopping : s.stopping = true := by
      unfold stopping
      rw [hParsing]
    have hQuiet := h.stopper hStopping
    have hNone (k : Nat) : (s.attempt k).deletes = false := by
      by_contra hDeletes
      have hNot := (h.deleter k (by simpa using hDeletes)).1
      exact absurd (hNot.symm.trans hStopping) Bool.false_ne_true
    have hAt : s.AtTimer pc := by
      refine ⟨fun hFreed => ?_, h.fault⟩
      rcases h.freed hFreed with hClear | hMem | ⟨k, hk⟩
      · cases hParsing.symm.trans hClear
        rfl
      · cases hQuiet _ hMem
      · have hNot := hNone k
        rw [hk] at hNot
        cases hNot
    obtain ⟨timer, hSame, hArmed, hFreed⟩ := hAt.exec
    rw [hSame]
    generalize (s.stopExec pc).2 = next at hArmed hFreed ⊢
    refine { h with stopper := fun _ => hQuiet, deleter := fun k hk => ?_, freed := fun hNow => ?_
                    idle := fun hNow => ?_, armed := fun hNow => h.armed (hArmed hNow).1 }
    · exact absurd ((hNone k).symm.trans hk) Bool.false_ne_true
    · rw [hFreed hNow]
      exact Or.inl rfl
    · obtain ⟨hOld, hNext⟩ := hArmed hNow
      refine ⟨(h.idle hOld).1, fun hLooking => hNext ?_⟩
      cases next with
      | none => rfl
      | some pc => cases hLooking
  · cases hStep

theorem processInitEvent_inv {accepted : Bool} (h : s.Inv cfg)
    (hCareful : Careful cfg s (.processInitEvent accepted))
    (hStep : s.processInitEvent accepted = some s') : s'.Inv cfg := by
  unfold processInitEvent at hStep
  split at hStep
  · rename_i hLooking
    cases hStep
    refine { h with stopper := nofun, deleter := fun k hk => ⟨rfl, (h.deleter k hk).2⟩
                    freed := fun hFreed => ?_, idle := fun hArmed => ?_
                    expired := fun hOver => ?_ }
    · rcases h.freed hFreed with hParsing | hRest
      · cases hLooking.symm.trans hParsing
      · exact Or.inr hRest
    · exact absurd hLooking (h.idle hArmed).2
    · replace hOver : s.expired = true := hOver
      refine ⟨?_, (h.expired hOver).2⟩
      show (if accepted then TransportState.txActive else s.transportState) ≠ .txActive
      rw [if_neg fun hAccepted => absurd ((hCareful hAccepted).symm.trans hOver)
        Bool.false_ne_true]
      exact (h.expired hOver).1
  · cases hStep

theorem expire_inv (h : s.Inv cfg) (hStep : s.expire = some s') : s'.Inv cfg := by
  unfold expire at hStep
  split at hStep
  · rename_i hArmed
    cases hStep
    exact { h with freed := nofun, idle := nofun, armed := nofun
                   expired := fun _ => ⟨(h.idle hArmed).1, h.armed hArmed⟩ }
  · cases hStep

theorem initTimeoutCb_inv (h : s.Inv cfg) (hStep : s.initTimeoutCb = some s') : s'.Inv cfg := by
  unfold initTimeoutCb at hStep
  split at hStep
  · cases hStep
    exact { h with }
  · cases hStep

theorem step_inv {a : Action} (h : s.Inv cfg) (hCareful : Careful cfg s a)
    (hStep : step cfg s a = some s') : s'.Inv cfg := by
  unfold step at hStep
  split at hStep
  · cases hStep
  · cases a with
    | setup =>
      cases hStep
      exact setup_inv h hCareful
    | transportInit => exact transportInit_inv h hStep
    | teardown =>
      cases hStep
      exact teardown_inv h hCareful
    | teardownStep => exact teardownStep_inv h hStep
    | reconfigure =>
      cases hStep
      exact reconfigure_inv h hCareful
    | startTimer => exact startTimer_inv h hCareful hStep
    | deleteTimer => exact deleteTimer_inv h hStep
    | check => exact check_inv h hStep
    | busReady => exact busReady_inv h hCareful hStep
    | activate => exact activate_inv h hStep
    | poll => exact poll_inv h hCareful hStep
    | retryBus => exact retryBus_inv h hCareful hStep
    | initEvent => exact initEvent_inv h hCareful hStep
    | initStop => exact initStop_inv h hStep
    | processInitEvent => exact processInitEvent_inv h hCareful hStep
    | expire => exact expire_inv h hStep
    | initTimeoutCb => exact initTimeoutCb_inv h hStep

/-! ## Runs -/

/-- There is one bus at most, the one that `bus_handle` names, and the handle names no other unless
a call of `teardown_transport` has just closed it. No timer is used that was freed. The timer is
armed, and the host about to be restarted, only while an attempt waits for an INIT event and the
transport is not active. An attempt returns `H_OK` only if it is, and one that begins has all its
retries. -/
structure Healthy (cfg : PortConfig) (s : Transport) : Prop where
  one : s.buses.alive.length ≤ 1
  named : ∀ bus ∈ s.buses.alive, s.busHandle = some bus
  bus : s.teardowns = [] → s.buses.alive = s.busHandle.toList
  fresh : s.buses.stale = false
  fault : s.timerFault = false
  armed : s.initTimeoutTimer = .armed →
    s.transportState ≠ .txActive ∧ ∃ k, (s.attempt k).connecting = true
  restart : s.expired = true →
    s.transportState ≠ .txActive ∧ ∃ k, (s.attempt k).connecting = true
  returned : ∀ a s' k, step cfg s a = some s' → s'.attempt k = .returned true →
    s.attempt k ≠ .returned true → s.transportState = .txActive
  retries : (∀ k, (s.attempt k).running = false) → s.retrySlaveConnection = 0

/-- One attempt at most moves, and returns `H_OK` only if the transport is active. -/
def Moves (s s' : Transport) : Prop :=
  s'.attempt = s.attempt ∨ ∃ k pc, s'.attempt = Function.update s.attempt k pc ∧
    (pc = .returned true → s.transportState = .txActive)

theorem setupTransport_attempt : s.setupTransport.attempt = s.attempt := by
  unfold setupTransport
  split <;> rfl

theorem transportInit_attempt {ok : Bool} (hStep : s.transportInit cfg ok = some s') :
    s'.attempt = s.attempt := by
  unfold transportInit at hStep
  (repeat' split at hStep) <;> cases hStep <;> rfl

theorem stopExec_attempt (pc : StopPc) : (s.stopExec pc).1.attempt = s.attempt := by
  cases pc <;> rfl

theorem teardownStep_attempt {i : Nat} (hStep : s.teardownStep i = some s') :
    s'.attempt = s.attempt := by
  obtain ⟨pc, -, rfl⟩ := Option.map_eq_some_iff.mp hStep
  cases pc with
  | stopping pc => exact stopExec_attempt pc
  | _ => rfl

theorem reconfigure_moves (createOk : Bool) : s.Moves (s.reconfigure createOk) := by
  unfold reconfigure
  split
  · split
    · exact Or.inr ⟨_, _, rfl, nofun⟩
    · exact Or.inr ⟨_, _, rfl, nofun⟩
  · exact Or.inr ⟨_, _, rfl, nofun⟩

theorem startTimer_moves {k : Nat} {ok : Bool} (hStep : s.startTimer k ok = some s') :
    s.Moves s' := by
  unfold startTimer at hStep
  split at hStep
  · split at hStep
    · cases hStep
      exact Or.inr ⟨_, _, rfl, nofun⟩
    · cases hStep
      exact Or.inr ⟨_, _, rfl, nofun⟩
  · cases hStep

theorem deleteTimer_moves {k : Nat} (hStep : s.deleteTimer k = some s') : s.Moves s' := by
  unfold deleteTimer at hStep
  split at hStep
  · rename_i pc _
    cases hStep
    have hSame : (s.stopExec pc).1.attempt = s.attempt := stopExec_attempt pc
    refine Or.inr ⟨k, .afterDelete (s.stopExec pc).2, ?_, fun hOk => ?_⟩
    · simp only [setAttempt, hSame]
    · cases hNext : (s.stopExec pc).2 <;> rw [hNext] at hOk <;> cases hOk
  · cases hStep

theorem check_moves {k : Nat} (hStep : s.check k = some s') : s.Moves s' := by
  unfold check at hStep
  split at hStep
  · split at hStep
    · rename_i hTx
      cases hStep
      exact Or.inr ⟨_, _, rfl, fun _ => hTx⟩
    · cases hStep
      exact Or.inr ⟨_, _, rfl, nofun⟩
  · cases hStep

theorem busReady_moves {k : Nat} {ok setsRx : Bool} (hStep : s.busReady k ok setsRx = some s') :
    s.Moves s' := by
  unfold busReady at hStep
  split at hStep
  · split at hStep
    · cases hStep
      exact Or.inr ⟨_, _, rfl, nofun⟩
    · cases hStep
      exact Or.inr ⟨_, _, rfl, nofun⟩
  · cases hStep

theorem activate_moves {k : Nat} (hStep : s.activate k = some s') : s.Moves s' := by
  unfold activate at hStep
  split at hStep
  · cases hStep
    exact Or.inr ⟨_, _, rfl, nofun⟩
  · cases hStep

theorem poll_moves {k : Nat} (hStep : s.poll k = some s') : s.Moves s' := by
  unfold poll at hStep
  split at hStep
  · split at hStep
    · rename_i hTx
      cases hStep
      exact Or.inr ⟨_, _, rfl, fun _ => hTx⟩
    · split at hStep
      · cases hStep
        exact Or.inr ⟨_, _, rfl, fun hOk => by split at hOk <;> cases hOk⟩
      · cases hStep
        exact Or.inr ⟨_, _, rfl, nofun⟩
  · cases hStep

theorem retryBus_moves {k : Nat} {ok setsRx : Bool} (hStep : s.retryBus k ok setsRx = some s') :
    s.Moves s' := by
  unfold retryBus at hStep
  split at hStep
  · split at hStep
    · cases hStep
      exact Or.inr ⟨_, _, rfl, nofun⟩
    · cases hStep
      exact Or.inr ⟨_, _, rfl, nofun⟩
  · cases hStep

theorem initEvent_attempt (hStep : s.initEvent = some s') : s'.attempt = s.attempt := by
  unfold initEvent at hStep
  split at hStep
  · cases hStep
    rfl
  · cases hStep

theorem initStop_attempt (hStep : s.initStop = some s') : s'.attempt = s.attempt := by
  unfold initStop at hStep
  split at hStep
  · cases hStep
    exact stopExec_attempt _
  · cases hStep

theorem processInitEvent_attempt {accepted : Bool}
    (hStep : s.processInitEvent accepted = some s') : s'.attempt = s.attempt := by
  unfold processInitEvent at hStep
  split at hStep
  · cases hStep
    rfl
  · cases hStep

theorem expire_attempt (hStep : s.expire = some s') : s'.attempt = s.attempt := by
  unfold expire at hStep
  split at hStep
  · cases hStep
    rfl
  · cases hStep

theorem initTimeoutCb_attempt (hStep : s.initTimeoutCb = some s') : s'.attempt = s.attempt := by
  unfold initTimeoutCb at hStep
  split at hStep
  · cases hStep
    rfl
  · cases hStep

theorem step_moves {a : Action} (hStep : step cfg s a = some s') : s.Moves s' := by
  unfold step at hStep
  split at hStep
  · cases hStep
  · cases a with
    | setup =>
      cases hStep
      exact Or.inl setupTransport_attempt
    | transportInit ok => exact Or.inl (transportInit_attempt hStep)
    | teardown =>
      cases hStep
      exact Or.inl rfl
    | teardownStep i => exact Or.inl (teardownStep_attempt hStep)
    | reconfigure createOk =>
      cases hStep
      exact reconfigure_moves createOk
    | startTimer => exact startTimer_moves hStep
    | deleteTimer => exact deleteTimer_moves hStep
    | check => exact check_moves hStep
    | busReady => exact busReady_moves hStep
    | activate => exact activate_moves hStep
    | poll => exact poll_moves hStep
    | retryBus => exact retryBus_moves hStep
    | initEvent => exact Or.inl (initEvent_attempt hStep)
    | initStop => exact Or.inl (initStop_attempt hStep)
    | processInitEvent => exact Or.inl (processInitEvent_attempt hStep)
    | expire => exact Or.inl (expire_attempt hStep)
    | initTimeoutCb => exact Or.inl (initTimeoutCb_attempt hStep)

/-- Only a transport that is active lets an attempt return `H_OK`. -/
theorem txActive_of_returned {a : Action} {k : Nat} (hStep : step cfg s a = some s')
    (hNow : s'.attempt k = .returned true) (hThen : s.attempt k ≠ .returned true) :
    s.transportState = .txActive := by
  rcases step_moves hStep with hSame | ⟨j, pc, hMove, hTx⟩
  · rw [hSame] at hNow
    exact absurd hNow hThen
  · rw [hMove] at hNow
    by_cases hEq : k = j
    · subst hEq
      rw [Function.update_self] at hNow
      exact hTx hNow
    · rw [Function.update_of_ne hEq] at hNow
      exact absurd hNow hThen

/-- The bus that is open is the one of the handle. -/
theorem Inv.alive (h : s.Inv cfg) :
    s.buses.alive = if .clearBus ∈ s.teardowns then [] else s.busHandle.toList := by
  have hPerm := h.bus.alive
  generalize s.busHandle = handle at hPerm ⊢
  split at hPerm
  · rename_i hClosed
    rw [if_pos hClosed]
    exact hPerm.eq_nil
  · rename_i hOpen
    rw [if_neg hOpen]
    cases handle with
    | none => exact hPerm.eq_nil
    | some bus => exact hPerm.eq_singleton

theorem healthy_of_reaches (cfg : PortConfig) {s : Transport}
    (hRun : Reaches (step cfg) (Careful cfg) boot s) : s.Healthy cfg := by
  have hInv := hRun.invariant (boot_inv cfg) fun _ _ _ h hCareful hStep =>
    step_inv h hCareful hStep
  have hAlive := hInv.alive
  refine ⟨?_, fun bus hMem => ?_, fun hNone => ?_, hInv.bus.fresh, hInv.fault,
    fun hArmed => ⟨(hInv.idle hArmed).1, hInv.armed hArmed⟩, hInv.expired,
    fun a s' k hStep hNow hThen => txActive_of_returned hStep hNow hThen, ?_⟩
  · rw [hAlive]
    split
    · exact Nat.zero_le _
    · cases s.busHandle with
      | none => exact Nat.zero_le _
      | some bus => exact Nat.le_refl _
  · rw [hAlive] at hMem
    split at hMem
    · cases hMem
    · exact Option.mem_toList.mp hMem
  · rw [hAlive, hNone, if_neg List.not_mem_nil]
  · intro hRest
    by_contra hNe
    obtain ⟨k, hk⟩ := hInv.retries hNe
    have hRunning := AttemptPc.running_of_polls hk
    rw [hRest k] at hRunning
    cases hRunning

/-- An attempt that succeeds. -/
def connect : List Action :=
  [.setup, .transportInit true, .reconfigure true, .startTimer 0 true, .check 0,
    .busReady 0 true true, .activate 0, .poll 0, .initEvent, .initStop, .initStop, .initStop,
    .processInitEvent true, .poll 0]

/-- The transport is set up twice, torn down and set up again while an INIT event is looked at, and
an attempt waits. -/
theorem healthy_reconnect :
    ∃ s, Reaches (step ⟨false⟩) (Careful ⟨false⟩) boot s ∧ s.initTimeoutTimer = .armed ∧
      s.Healthy ⟨false⟩ := by
  have hRun : (runGuarded (step ⟨false⟩) (Careful ⟨false⟩) boot (connect ++ ([.setup, .initEvent,
      .initStop, .teardown, .teardownStep 0, .teardownStep 0, .teardownStep 0, .teardownStep 0,
      .processInitEvent false, .teardownStep 0, .setup, .transportInit true, .reconfigure true,
      .startTimer 1 true] : List Action))).map (·.initTimeoutTimer) = some .armed := by
    decide +kernel
  obtain ⟨s, hs, hTimer⟩ := Option.map_eq_some_iff.mp hRun
  exact ⟨s, .of_run hs, hTimer, healthy_of_reaches ⟨false⟩ (.of_run hs)⟩

/-- `transport_drv_reconfigure` is called when the link is up. It returns `H_OK`, and the timer that
it has started will restart the host. -/
theorem not_healthy :
    ¬∀ cfg s, Reaches (step cfg) anyStep boot s → s.Healthy cfg := by
  intro h
  have hRun : (run (step ⟨false⟩) boot
      (connect ++ ([.reconfigure true, .startTimer 1 true, .check 1] : List Action))).map
      (fun s => (s.transportState, s.initTimeoutTimer, s.attempt 1)) =
      some (.txActive, .armed, .returned true) := by decide +kernel
  obtain ⟨s, hs, hView⟩ := Option.map_eq_some_iff.mp hRun
  obtain ⟨hState, hView⟩ := Prod.mk.inj hView
  have hTimer := (Prod.mk.inj hView).1
  exact ((h ⟨false⟩ s (.of_plain_run hs)).armed hTimer).1 hState

end Transport

end EspHosted.Driver
