import EspHosted.Lib.Machine

/-!
# Timers of the JL port

A timer handle is a `jl_timer_t` on the heap. `jl_timer_start` registers it with a timer of the
system, whose expiry runs `jl_timer_wrapper`: it calls the user callback and then decides with
`jl_timer_release` whether the handle is kept. `jl_timer_stop` and `jl_timer_delete` free the
handle, or leave that to the wrapper while the callback is running.

The model follows one handle. The callback is a step of its own, so that any calls, from inside
it or from elsewhere, can come between its begin and its end. The system runs one callback at a
time.

* `handle_freed_once`: the handle is freed at most once and not touched after that, if no call comes
  after the expiry of a one-shot timer that its callback did not restart, a running callback of a
  periodic timer is not a place to start it again, and a timer that was restarted in its callback
  is stopped only after the callback.
-/

namespace EspHosted.Jl.Timer

open Machine

/-! ## Model -/

/-- `jl_timer_state_t`. -/
inductive TimerState
  | idle
  | armed
  | inCallback
  | deferFree
  | stopped
  deriving DecidableEq

/-- A timer of the system that calls the wrapper, `sys_timer_add` or `sys_timeout_add`. -/
structure SysTimer where
  id : Nat
  periodic : Bool
  deriving DecidableEq

inductive HErr
  | ok
  | fail
  | invalidArg
  | noMem
  deriving DecidableEq

/-- The fields of `jl_timer_t`, and around them: whether the handle was created, how often it was
freed, whether it was used after that, the timers of the system that carry it, whether its
callback is running, and whether the caller has stopped or deleted it. -/
structure State where
  id : Nat
  periodic : Bool
  state : TimerState
  created : Bool
  freed : Nat
  touched : Bool
  sysTimers : List SysTimer
  running : Bool
  gone : Bool

def init : State :=
  { id := 0, periodic := false, state := .idle, created := false, freed := 0, touched := false,
    sysTimers := [], running := false, gone := false }

/-- The handle is read or written. -/
def State.touch (s : State) : State := { s with touched := s.touched || decide (s.freed ≠ 0) }

/-- `jl_timer_stop_sys`: `sys_timer_del` or `sys_timeout_del`. -/
def jlTimerStopSys (s : State) : State :=
  if s.id = 0 then s
  else { s with sysTimers := s.sysTimers.filter fun t => t != .mk s.id s.periodic, id := 0 }

/-- `jl_timer_free`. -/
def jlTimerFree (s : State) : State := { s with freed := s.freed + 1 }

def jlTimerRelease (s : State) : State :=
  match s.state with
  | .deferFree | .stopped => jlTimerFree s
  | .inCallback =>
    if s.periodic = false then jlTimerFree { s with state := .stopped }
    else { s with state := .armed }
  | .armed | .idle => s

/-- `jl_timer_create`; the memory is set to 0. -/
def jlTimerCreate (s : State) (mallocOk : Bool) : HErr × State :=
  if mallocOk then (.ok, { init with created := true }) else (.noMem, s)

/-- `jl_timer_start`; `id` is the answer of `sys_timer_add` or `sys_timeout_add`, 0 if there is
no timer left. -/
def jlTimerStart (s : State) (periodMs : Nat) (periodic hasCb : Bool) (id : Nat) : HErr × State :=
  if hasCb = false ∨ periodMs = 0 then (.invalidArg, s)
  else
    let s := s.touch
    let s := if s.state = .armed then jlTimerStopSys s else s
    let s := { s with periodic, state := .armed, id }
    if id = 0 then (.fail, { s with state := .idle })
    else (.ok, { s with sysTimers := s.sysTimers ++ [⟨id, periodic⟩] })

def jlTimerStop (s : State) : HErr × State :=
  let s := s.touch
  match s.state with
  | .idle => (.ok, jlTimerFree s)
  | .stopped => (.ok, s)
  | .inCallback => (.ok, { jlTimerStopSys s with state := .deferFree })
  | .armed => (.ok, jlTimerFree { jlTimerStopSys s with state := .stopped })
  | .deferFree => (.ok, s)

def jlTimerDelete (s : State) : HErr × State := jlTimerStop s

/-- `jl_timer_wrapper` up to the callback. A one-shot timer of the system is used up. -/
def wrapperBegin (s : State) (t : SysTimer) : State :=
  let sysTimers := if t.periodic then s.sysTimers else s.sysTimers.erase t
  { s.touch with state := .inCallback, sysTimers, running := true }

/-- `jl_timer_wrapper` after the callback. -/
def wrapperEnd (s : State) : State := jlTimerRelease { s.touch with running := false }

inductive Action
  | create (mallocOk : Bool)
  | start (periodMs : Nat) (periodic hasCb : Bool) (id : Nat)
  | stop
  | delete
  | expire (t : SysTimer)
  | callbackEnd

/-- The caller has the handle: it was created, and not given back by a stop or a delete. -/
def State.owned (s : State) : Bool := s.created && !s.gone

/-- One step, of callers that keep to the contract of `timer_stop`. -/
def step (s : State) : Action → Option State
  | .create mallocOk => if s.created then none else some (jlTimerCreate s mallocOk).2
  | .start periodMs periodic hasCb id =>
    if s.owned then some (jlTimerStart s periodMs periodic hasCb id).2 else none
  | .stop => if s.owned then some { (jlTimerStop s).2 with gone := true } else none
  | .delete => if s.owned then some { (jlTimerDelete s).2 with gone := true } else none
  | .expire t => if t ∈ s.sysTimers ∧ s.running = false then some (wrapperBegin s t) else none
  | .callbackEnd => if s.running then some (wrapperEnd s) else none

/-! ## What is kept -/

/-- The handle is freed at most once and not used after that. -/
structure FreedOnce (s : State) : Prop where
  once : s.freed ≤ 1
  untouched : s.touched = false

/-- No call comes after a one-shot timer has expired and was not restarted in its callback, a
periodic timer is not started again while its callback runs, and a timer that was started in its
callback is not stopped or deleted before the callback returns. -/
def Tidy (s : State) : Action → Prop
  | .start periodMs _ hasCb _ => hasCb = true → periodMs ≠ 0 →
      s.state ≠ .stopped ∧ (s.state = .inCallback → s.periodic = false)
  | .stop | .delete => s.state ≠ .stopped ∧ (s.running = true → s.state = .inCallback)
  | _ => True

instance (s : State) (a : Action) : Decidable (Tidy s a) := by
  cases a using Action.casesOn <;> unfold Tidy <;> infer_instance

/-- The system timers that a handle has in each state, as long as it is not freed. -/
def Held (s : State) : Prop :=
  match s.state with
  | .idle => s.sysTimers = []
  | .armed => s.sysTimers = [⟨s.id, s.periodic⟩] ∧ s.id ≠ 0 ∧ s.gone = false
  | .inCallback => s.running = true ∧ s.gone = false ∧
      if s.periodic then s.sysTimers = [⟨s.id, true⟩] ∧ s.id ≠ 0 else s.sysTimers = []
  | .deferFree => s.running = true ∧ s.sysTimers = [] ∧ s.gone = true
  | .stopped => False

/-- Nothing uses the handle any more. -/
def Released (s : State) : Prop :=
  s.freed = 1 ∧ s.sysTimers = [] ∧ s.running = false ∧ (s.gone = true ∨ s.state = .stopped)

structure TimerInv (s : State) : Prop where
  untouched : s.touched = false
  phase : (s.freed = 0 ∧ Held s) ∨ Released s

section Steps

variable {s s' : State}

theorem touch_eq (h : s.touched = false) (hFreed : s.freed = 0) : s.touch = s := by
  unfold State.touch
  rw [hFreed]
  cases s
  simp_all

/-- A handle that the caller has is not freed, if it is not that of a one-shot timer that is
over. -/
theorem TimerInv.held (h : TimerInv s) (hOwned : s.owned = true) (hState : s.state ≠ .stopped) :
    s.freed = 0 ∧ Held s ∧ s.gone = false := by
  have hGone : s.gone = false := by
    rw [State.owned, Bool.and_eq_true, Bool.not_eq_true'] at hOwned
    exact hOwned.2
  rcases h.phase with ⟨hFreed, hHeld⟩ | ⟨-, -, -, hGone' | hStopped⟩
  · exact ⟨hFreed, hHeld, hGone⟩
  · rw [hGone] at hGone'
    cases hGone'
  · exact absurd hStopped hState

/-- `jl_timer_stop_sys` leaves no timer of the system. -/
theorem stopSys_eq (hSys : s.sysTimers = [⟨s.id, s.periodic⟩]) (hId : s.id ≠ 0) :
    jlTimerStopSys s = { s with sysTimers := [], id := 0 } := by
  unfold jlTimerStopSys
  rw [if_neg hId, hSys]
  simp

theorem stopSys_nil (hSys : s.sysTimers = []) :
    ∃ n, jlTimerStopSys s = { s with sysTimers := [], id := n } := by
  unfold jlTimerStopSys
  split
  · exact ⟨s.id, by rw [← hSys]⟩
  · exact ⟨0, by rw [hSys]; rfl⟩

theorem start_inv (h : TimerInv s) (hOwned : s.owned = true) {periodMs id : Nat}
    {periodic hasCb : Bool} (hTidy : Tidy s (.start periodMs periodic hasCb id)) :
    TimerInv (jlTimerStart s periodMs periodic hasCb id).2 := by
  unfold jlTimerStart
  split
  · exact h
  rename_i hValid
  have hValid : hasCb = true ∧ periodMs ≠ 0 := by
    cases hasCb <;> simp_all
  obtain ⟨hState, hOneShot⟩ := hTidy hValid.1 hValid.2
  obtain ⟨hFreed, hHeld, hGone⟩ := h.held hOwned hState
  rw [touch_eq h.untouched hFreed]
  -- the timer of the system that was there is gone
  have hNone : ∃ n, (if s.state = .armed then jlTimerStopSys s else s) =
      { s with sysTimers := [], id := n } := by
    unfold Held at hHeld
    cases hCase : s.state with
    | idle =>
      rw [hCase] at hHeld
      simp only at hHeld
      exact ⟨s.id, by rw [if_neg (by simp), ← hHeld, ← hCase]⟩
    | armed =>
      rw [hCase] at hHeld
      obtain ⟨hSys, hId, -⟩ := hHeld
      exact ⟨0, by rw [if_pos rfl, stopSys_eq hSys hId, ← hCase]⟩
    | inCallback =>
      rw [hCase] at hHeld
      obtain ⟨-, -, hSys⟩ := hHeld
      rw [hOneShot hCase] at hSys
      simp only [Bool.false_eq_true, if_false] at hSys
      exact ⟨s.id, by rw [if_neg (by simp), ← hSys, ← hCase]⟩
    | deferFree =>
      rw [hCase] at hHeld
      obtain ⟨-, -, hGone'⟩ := hHeld
      rw [hGone] at hGone'
      cases hGone'
    | stopped => exact absurd hCase hState
  obtain ⟨n, hEq⟩ := hNone
  simp only [hEq]
  split
  · exact ⟨h.untouched, Or.inl ⟨hFreed, rfl⟩⟩
  · rename_i hId
    exact ⟨h.untouched, Or.inl ⟨hFreed, rfl, hId, hGone⟩⟩

/-- `jl_timer_stop` frees the handle or leaves that to the wrapper. -/
theorem stop_inv (h : TimerInv s) (hOwned : s.owned = true) (hState : s.state ≠ .stopped)
    (hRunning : s.running = true → s.state = .inCallback) :
    TimerInv { (jlTimerStop s).2 with gone := true } := by
  obtain ⟨hFreed, hHeld, hGone⟩ := h.held hOwned hState
  have hTouch := touch_eq h.untouched hFreed
  have hIdle : s.state ≠ .inCallback → s.running = false := fun hNe =>
    Bool.eq_false_iff.mpr fun hTrue => hNe (hRunning hTrue)
  have hOne : s.freed + 1 = 1 := by rw [hFreed]
  unfold Held at hHeld
  cases hCase : s.state with
  | idle =>
    have hStop : (jlTimerStop s).2 = jlTimerFree s := by simp [jlTimerStop, hTouch, hCase]
    rw [hCase] at hHeld
    rw [hStop]
    exact ⟨h.untouched, Or.inr ⟨hOne, hHeld, hIdle (by simp [hCase]), Or.inl rfl⟩⟩
  | armed =>
    rw [hCase] at hHeld
    obtain ⟨hSys, hId, -⟩ := hHeld
    have hStop : (jlTimerStop s).2 =
        jlTimerFree { s with state := .stopped, sysTimers := [], id := 0 } := by
      simp [jlTimerStop, hTouch, hCase, stopSys_eq hSys hId]
    rw [hStop]
    exact ⟨h.untouched, Or.inr ⟨hOne, rfl, hIdle (by simp [hCase]), Or.inl rfl⟩⟩
  | inCallback =>
    rw [hCase] at hHeld
    obtain ⟨hRun, -, hSys⟩ := hHeld
    have hStop : (jlTimerStop s).2 = { jlTimerStopSys s with state := .deferFree } := by
      simp [jlTimerStop, hTouch, hCase]
    have hNone : ∃ n, jlTimerStopSys s = { s with sysTimers := [], id := n } := by
      by_cases hPeriodic : s.periodic = true
      · rw [if_pos hPeriodic] at hSys
        exact ⟨0, stopSys_eq (by rw [hPeriodic]; exact hSys.1) hSys.2⟩
      · rw [if_neg hPeriodic] at hSys
        exact stopSys_nil hSys
    obtain ⟨n, hEq⟩ := hNone
    rw [hStop, hEq]
    exact ⟨h.untouched, Or.inl ⟨hFreed, hRun, rfl, rfl⟩⟩
  | deferFree =>
    rw [hCase] at hHeld
    obtain ⟨-, -, hGone'⟩ := hHeld
    rw [hGone] at hGone'
    cases hGone'
  | stopped => exact absurd hCase hState

theorem wrapperBegin_inv (h : TimerInv s) {t : SysTimer} (hMem : t ∈ s.sysTimers)
    (hRunning : s.running = false) : TimerInv (wrapperBegin s t) := by
  rcases h.phase with ⟨hFreed, hHeld⟩ | ⟨-, hSys, -⟩
  · have hTouch := touch_eq h.untouched hFreed
    unfold Held at hHeld
    cases hCase : s.state with
    | idle =>
      rw [hCase] at hHeld
      simp only at hHeld
      rw [hHeld] at hMem
      cases hMem
    | armed =>
      rw [hCase] at hHeld
      obtain ⟨hSys, hId, hGone⟩ := hHeld
      have hTimer : t = ⟨s.id, s.periodic⟩ := by
        rw [hSys] at hMem
        exact List.mem_singleton.mp hMem
      unfold wrapperBegin
      rw [hTouch]
      refine ⟨h.untouched, Or.inl ⟨hFreed, rfl, hGone, ?_⟩⟩
      cases hPeriodic : s.periodic with
      | true => simp [hTimer, hSys, hPeriodic, hId]
      | false => simp [hTimer, hSys, hPeriodic]
    | inCallback =>
      rw [hCase, hRunning] at hHeld
      cases hHeld.1
    | deferFree =>
      rw [hCase, hRunning] at hHeld
      cases hHeld.1
    | stopped =>
      rw [hCase] at hHeld
      cases hHeld
  · rw [hSys] at hMem
    cases hMem

theorem wrapperEnd_inv (h : TimerInv s) (hRunning : s.running = true) :
    TimerInv (wrapperEnd s) := by
  rcases h.phase with ⟨hFreed, hHeld⟩ | ⟨-, -, hNot, -⟩
  · have hTouch := touch_eq h.untouched hFreed
    have hOne : s.freed + 1 = 1 := by rw [hFreed]
    unfold Held at hHeld
    cases hCase : s.state with
    | idle =>
      rw [hCase] at hHeld
      have hEnd : wrapperEnd s = { s with running := false } := by
        simp [wrapperEnd, jlTimerRelease, hTouch, hCase]
      rw [hEnd]
      exact ⟨h.untouched, Or.inl ⟨hFreed, by rw [Held, hCase]; exact hHeld⟩⟩
    | armed =>
      rw [hCase] at hHeld
      have hEnd : wrapperEnd s = { s with running := false } := by
        simp [wrapperEnd, jlTimerRelease, hTouch, hCase]
      rw [hEnd]
      exact ⟨h.untouched, Or.inl ⟨hFreed, by rw [Held, hCase]; exact hHeld⟩⟩
    | inCallback =>
      rw [hCase] at hHeld
      obtain ⟨-, hGone, hSys⟩ := hHeld
      cases hPeriodic : s.periodic with
      | true =>
        rw [hPeriodic, if_pos rfl] at hSys
        have hEnd : wrapperEnd s = { s with running := false, state := .armed } := by
          simp [wrapperEnd, jlTimerRelease, hTouch, hCase, hPeriodic]
        rw [hEnd]
        exact ⟨h.untouched, Or.inl ⟨hFreed, by rw [hPeriodic]; exact hSys.1, hSys.2, hGone⟩⟩
      | false =>
        rw [hPeriodic] at hSys
        have hEnd : wrapperEnd s = jlTimerFree { s with running := false, state := .stopped } := by
          simp [wrapperEnd, jlTimerRelease, hTouch, hCase, hPeriodic]
        rw [hEnd]
        exact ⟨h.untouched, Or.inr ⟨hOne, hSys, rfl, Or.inr rfl⟩⟩
    | deferFree =>
      rw [hCase] at hHeld
      obtain ⟨-, hSys, hGone⟩ := hHeld
      have hEnd : wrapperEnd s = jlTimerFree { s with running := false } := by
        simp [wrapperEnd, jlTimerRelease, hTouch, hCase]
      rw [hEnd]
      exact ⟨h.untouched, Or.inr ⟨hOne, hSys, rfl, Or.inl hGone⟩⟩
    | stopped =>
      rw [hCase] at hHeld
      cases hHeld
  · rw [hRunning] at hNot
    cases hNot

theorem step_inv {a : Action} (h : TimerInv s) (hTidy : Tidy s a) (hStep : step s a = some s') :
    TimerInv s' := by
  cases a with
  | create mallocOk =>
    simp only [step, Option.ite_none_left_eq_some, jlTimerCreate] at hStep
    obtain ⟨-, hEq⟩ := hStep
    cases hEq
    split
    · exact ⟨rfl, Or.inl ⟨rfl, rfl⟩⟩
    · exact h
  | start periodMs periodic hasCb id =>
    simp only [step, Option.ite_none_right_eq_some] at hStep
    obtain ⟨hOwned, hEq⟩ := hStep
    cases hEq
    exact start_inv h hOwned hTidy
  | stop =>
    simp only [step, Option.ite_none_right_eq_some] at hStep
    obtain ⟨hOwned, hEq⟩ := hStep
    cases hEq
    exact stop_inv h hOwned hTidy.1 hTidy.2
  | delete =>
    simp only [step, Option.ite_none_right_eq_some] at hStep
    obtain ⟨hOwned, hEq⟩ := hStep
    cases hEq
    exact stop_inv h hOwned hTidy.1 hTidy.2
  | expire t =>
    simp only [step, Option.ite_none_right_eq_some] at hStep
    obtain ⟨⟨hMem, hRunning⟩, hEq⟩ := hStep
    cases hEq
    exact wrapperBegin_inv h hMem hRunning
  | callbackEnd =>
    simp only [step, Option.ite_none_right_eq_some] at hStep
    obtain ⟨hRunning, hEq⟩ := hStep
    cases hEq
    exact wrapperEnd_inv h hRunning

theorem init_inv : TimerInv init := ⟨rfl, Or.inl ⟨rfl, rfl⟩⟩

/-- As long as no call comes after the expiry of a one-shot timer that its callback left alone, a
periodic timer is not started again while its callback runs, and a timer that was started in its
callback is not stopped or deleted before the callback returns, the handle is freed at most once
and nothing touches it after that. -/
theorem handle_freed_once (hRun : Reaches step Tidy init s) : FreedOnce s := by
  have h : TimerInv s := hRun.invariant init_inv fun _ _ _ => step_inv
  refine ⟨?_, h.untouched⟩
  rcases h.phase with ⟨hFreed, -⟩ | ⟨hFreed, -⟩
  · omega
  · omega

end Steps

/-- A one-shot timer whose callback does nothing with it. -/
def oneShot : List Action :=
  [.create true, .start 100 false true 1, .expire ⟨1, false⟩, .callbackEnd]

theorem handle_freed_once_oneShot :
    ∃ s, Reaches step Tidy init s ∧ s.freed = 1 ∧ FreedOnce s := by
  obtain ⟨s, hs, hFreed⟩ := Option.map_eq_some_iff.mp
    (show (runGuarded step Tidy init oneShot).map (fun s => s.freed) = some 1 by decide +kernel)
  exact ⟨s, .of_run hs, hFreed, handle_freed_once (.of_run hs)⟩

/-- The expiry has freed the handle, which the caller does not know and stops it. -/
theorem not_handle_freed_once : ¬ ∀ s, Reaches step anyStep init s → FreedOnce s := by
  intro h
  obtain ⟨s, hs, hTouched⟩ := Option.map_eq_some_iff.mp
    (show (run step init (oneShot ++ [.stop])).map (fun s => s.touched) = some true
      by decide +kernel)
  have hUntouched := (h s (.of_plain_run hs)).untouched
  rw [hTouched] at hUntouched
  cases hUntouched

end EspHosted.Jl.Timer
