import EspHosted.Lib.Machine
import EspHosted.Lib.Objects

/-!
# The timer of host power save

`esp_hosted_power_save_timer_start` creates and starts a one-shot timer, and
`esp_hosted_power_save_timer_stop` stops it, which also releases it. An expiry leaves
`timer_handle` as it is. A start that finds a handle stops that timer, clears the handle and
reports a failure.

* `owned_step`: what keeps the handle the name of the only timer;
* `life_cycle`: along runs whose calls satisfy `Clear` the handle is exact, and a next call is
  sound exactly if it satisfies `Clear` too.
-/

namespace EspHosted.Power.SleepTimer

open Machine

/-! ## Model -/

/-- The answers of the OSAL, `true` for `H_OK`. -/
structure Osal where
  create : Bool
  start : Bool
  stop : Bool
  delete : Bool

/-- A one-shot timer that runs, with its time. -/
structure Armed where
  timer : Nat
  timeMs : Nat
  deriving DecidableEq

structure State where
  timers : Objects
  armed : List Armed
  timerHandle : Option Nat

def boot : State := { timers := .none, armed := [], timerHandle := none }

/-- What a call returns, and the answers of the OSAL calls that it made. -/
structure Outcome where
  ret : Int
  answers : List Bool
  state : State

/-- `h_timer_stop` and `h_timer_delete` release the timer if they succeed. -/
def release (s : State) (t : Nat) (ok : Bool) : State :=
  if ok then
    { s with timers := s.timers.destroy t, armed := s.armed.filter fun a => a.timer ≠ t }
  else s

/-- `h_timer_start`, not periodic. -/
def hTimerStart (s : State) (t timeMs : Nat) (ok : Bool) : State :=
  if ok then { s with armed := ⟨t, timeMs⟩ :: s.armed } else s

def espHostedPowerSaveTimerStart (s : State) (timeMs : Nat) (o : Osal) : Outcome :=
  if timeMs = 0 then ⟨-1, [], s⟩
  else
    match s.timerHandle with
    | some t => ⟨-1, [o.stop], { release s t o.stop with timerHandle := none }⟩
    | none =>
      if o.create = false then ⟨-1, [false], s⟩
      else
        let t := s.timers.next
        let s := { s with timers := s.timers.create, timerHandle := some t }
        if o.start = false then
          ⟨-1, [true, false, o.delete], { release s t o.delete with timerHandle := none }⟩
        else ⟨0, [true, true], hTimerStart s t timeMs true⟩

/-- The result of `h_timer_stop` is returned if it is not `H_OK`. -/
def espHostedPowerSaveTimerStop (s : State) (o : Osal) : Outcome :=
  match s.timerHandle with
  | none => ⟨-1, [], s⟩
  | some t =>
    if o.stop then ⟨0, [true], { release s t true with timerHandle := none }⟩
    else ⟨-1, [false], s⟩

/-- `power_save_timer_callback` does not touch the timer. -/
def expire (s : State) (a : Armed) : Option State :=
  if a ∈ s.armed then some { s with armed := s.armed.erase a } else none

inductive Call
  | start (timeMs : Nat) (o : Osal)
  | stop (o : Osal)

def Call.outcome (s : State) : Call → Outcome
  | .start timeMs o => espHostedPowerSaveTimerStart s timeMs o
  | .stop o => espHostedPowerSaveTimerStop s o

inductive Action
  | call (c : Call)
  | expire (a : Armed)

def step (s : State) : Action → Option State
  | .call c => some (c.outcome s).state
  | .expire a => expire s a

/-! ## Soundness -/

/-- `timer_handle` is `NULL` or names the only timer, and only that one can be armed, once. -/
structure Owned (s : State) : Prop where
  owns : s.timers.Owns s.timerHandle.toList
  armed : ∀ a ∈ s.armed, s.timerHandle = some a.timer
  once : s.armed.length ≤ 1

/-- A start arms one timer if none is armed and the OSAL does what it is asked for. -/
def Starts (s : State) (o : Outcome) : Call → Prop
  | .start timeMs _ => timeMs ≠ 0 → s.armed = [] → (∀ ok ∈ o.answers, ok = true) →
      o.ret = 0 ∧ ∃ t, o.state.armed = [⟨t, timeMs⟩]
  | .stop _ => True

structure Sound (s : State) (c : Call) : Prop where
  owned : Owned (c.outcome s).state
  starts : Starts s (c.outcome s) c
  kept : (c.outcome s).ret ≠ 0 → (c.outcome s).state.armed = s.armed

/-- A start finds no handle, and a timer that it cannot start is deleted. -/
def Clear (s : State) : Action → Prop
  | .call (.start timeMs o) => timeMs = 0 ∨
      (s.timerHandle = none ∧ (o.create = true → o.start = true ∨ o.delete = true))
  | .call (.stop _) | .expire _ => True

instance (s : State) : (a : Action) → Decidable (Clear s a)
  | .call (.start timeMs _) => inferInstanceAs (Decidable (timeMs = 0 ∨ (_ ∧ (_ → _ ∨ _))))
  | .call (.stop _) | .expire _ => .isTrue trivial

variable {s s' : State}

theorem boot_owned : Owned boot := ⟨.none, nofun, Nat.zero_le 1⟩

/-- Only the timer of the handle is armed, so none is when that one is released. -/
theorem release_armed (h : Owned s) {t : Nat} (hHandle : s.timerHandle = some t) :
    (release s t true).armed = [] := by
  refine List.filter_eq_nil_iff.mpr fun a ha => ?_
  have hSame := Option.some.inj ((h.armed a ha).symm.trans hHandle)
  rw [decide_eq_true_eq, not_not]
  exact hSame

theorem release_owned (h : Owned s) {t : Nat} (hHandle : s.timerHandle = some t) :
    Owned { release s t true with timerHandle := none } := by
  have hArmed := release_armed h hHandle
  have hOwns := h.owns
  rw [hHandle] at hOwns
  refine ⟨hOwns.destroy, fun a ha => ?_, ?_⟩
  · rw [show State.armed _ = [] from hArmed] at ha
    cases ha
  · rw [show State.armed _ = [] from hArmed]
    exact Nat.zero_le 1

theorem armed_of_null (h : Owned s) (hHandle : s.timerHandle = none) : s.armed = [] := by
  refine List.eq_nil_iff_forall_not_mem.mpr fun a ha => ?_
  have hSome := h.armed a ha
  rw [hHandle] at hSome
  cases hSome

/-- The owners of the timers are not two different lists. -/
theorem not_owns_nil {o : Objects} {t : Nat} (h : o.Owns [t]) : ¬ o.Owns [] := by
  intro hNil
  have hPerm := h.alive.symm.trans hNil.alive
  exact Nat.succ_ne_zero _ hPerm.length_eq

theorem expire_owned {a : Armed} (h : Owned s) (hStep : expire s a = some s') : Owned s' := by
  unfold expire at hStep
  split at hStep
  · cases hStep
    refine ⟨h.owns, fun b hb => h.armed b (List.mem_of_mem_erase hb), ?_⟩
    exact Nat.le_trans (List.length_erase_le) h.once
  · cases hStep

/-! ## Calls -/

theorem stop_sound (h : Owned s) (o : Osal) : Sound s (.stop o) := by
  cases hHandle : s.timerHandle with
  | none =>
    have hEq : (Call.stop o).outcome s = ⟨-1, [], s⟩ := by
      simp only [Call.outcome, espHostedPowerSaveTimerStop, hHandle]
    exact ⟨by rw [hEq]; exact h, trivial, fun _ => by rw [hEq]⟩
  | some t =>
    cases hStop : o.stop with
    | true =>
      have hEq : (Call.stop o).outcome s =
          ⟨0, [true], { release s t true with timerHandle := none }⟩ := by
        simp only [Call.outcome, espHostedPowerSaveTimerStop, hHandle, hStop, if_true]
      exact ⟨by rw [hEq]; exact release_owned h hHandle, trivial,
        fun hRet => absurd (by rw [hEq]) hRet⟩
    | false =>
      have hEq : (Call.stop o).outcome s = ⟨-1, [false], s⟩ := by
        simp only [Call.outcome, espHostedPowerSaveTimerStop, hHandle, hStop,
          Bool.false_eq_true, if_false]
      exact ⟨by rw [hEq]; exact h, trivial, fun _ => by rw [hEq]⟩

/-- A start that finds a handle stops a timer that was armed, or reports a failure for one that
was not, or loses a timer that it cannot stop. -/
theorem start_armed_not_sound (h : Owned s) {timeMs t : Nat} (hTime : timeMs ≠ 0) (o : Osal)
    (hHandle : s.timerHandle = some t) : ¬ Sound s (.start timeMs o) := by
  intro hSound
  have hEq : (Call.start timeMs o).outcome s =
      ⟨-1, [o.stop], { release s t o.stop with timerHandle := none }⟩ := by
    simp only [Call.outcome, espHostedPowerSaveTimerStart, hTime, if_false, hHandle]
  obtain ⟨hOwned, hStarts, hKept⟩ := hSound
  rw [hEq] at hOwned hStarts hKept
  cases hStop : o.stop with
  | false =>
    have hOwns := h.owns
    rw [hHandle] at hOwns
    rw [hStop] at hOwned
    exact not_owns_nil hOwns hOwned.owns
  | true =>
    rw [hStop] at hStarts hKept
    have hIdle : s.armed = [] :=
      (hKept (show (-1 : Int) ≠ 0 by decide)).symm.trans (release_armed h hHandle)
    have hRet := (hStarts hTime hIdle (by simp)).1
    exact absurd hRet (show (-1 : Int) ≠ 0 by decide)

/-- A start that finds no handle is sound unless it loses a timer that it could not start. -/
theorem start_null_sound_iff (h : Owned s) {timeMs : Nat} (hTime : timeMs ≠ 0) (o : Osal)
    (hHandle : s.timerHandle = none) :
    Sound s (.start timeMs o) ↔ (o.create = true → o.start = true ∨ o.delete = true) := by
  have hIdle := armed_of_null h hHandle
  have hCreated : s.timers.create.Owns [s.timers.next] := by
    have hOwns := h.owns
    rw [hHandle] at hOwns
    exact hOwns.create
  have hNew : Owned { s with timers := s.timers.create, timerHandle := some s.timers.next } :=
    ⟨hCreated, fun a ha => absurd (hIdle ▸ ha) List.not_mem_nil, h.once⟩
  cases hCreate : o.create with
  | false =>
    have hEq : (Call.start timeMs o).outcome s = ⟨-1, [false], s⟩ := by
      simp only [Call.outcome, espHostedPowerSaveTimerStart, hTime, if_false, hHandle, hCreate,
        if_true]
    refine ⟨fun _ => nofun, fun _ => ⟨by rw [hEq]; exact h, ?_, fun _ => by rw [hEq]⟩⟩
    intro _ _ hAll
    rw [hEq] at hAll
    exact absurd (hAll false List.mem_cons_self) Bool.false_ne_true
  | true =>
    rw [forall_prop_of_true rfl]
    cases hStart : o.start with
    | true =>
      have hEq : (Call.start timeMs o).outcome s = ⟨0, [true, true],
          { s with timers := s.timers.create, timerHandle := some s.timers.next
                   armed := ⟨s.timers.next, timeMs⟩ :: s.armed }⟩ := by
        simp only [Call.outcome, espHostedPowerSaveTimerStart, hTimerStart, hTime, if_false,
          hHandle, hCreate, hStart, Bool.true_eq_false, if_true]
      refine ⟨fun _ => Or.inl rfl, fun _ => ?_⟩
      refine ⟨?_, fun _ _ _ => ?_, fun hRet => absurd (by rw [hEq]) hRet⟩
      · rw [hEq]
        refine ⟨hCreated, fun a ha => ?_, ?_⟩
        · rw [show s.armed = [] from hIdle, List.mem_singleton] at ha
          rw [ha]
        · rw [show s.armed = [] from hIdle]
          exact Nat.le_refl 1
      · rw [hEq]
        exact ⟨rfl, s.timers.next, by rw [hIdle]⟩
    | false =>
      have hEq : (Call.start timeMs o).outcome s = ⟨-1, [true, false, o.delete],
          { release { s with timers := s.timers.create, timerHandle := some s.timers.next }
              s.timers.next o.delete with timerHandle := none }⟩ := by
        simp only [Call.outcome, espHostedPowerSaveTimerStart, hTime, if_false, hHandle, hCreate,
          hStart, Bool.true_eq_false, if_true]
      cases hDelete : o.delete with
      | false =>
        refine ⟨fun hSound => ?_, fun hEither => by simp at hEither⟩
        have hOwned := hSound.owned
        rw [hEq, hDelete] at hOwned
        exact absurd hOwned.owns (not_owns_nil hCreated)
      | true =>
        refine ⟨fun _ => Or.inr rfl, fun _ => ?_⟩
        refine ⟨?_, fun _ _ hAll => ?_, fun _ => ?_⟩
        · rw [hEq, hDelete]
          exact release_owned hNew rfl
        · rw [hEq] at hAll
          exact absurd (hAll false (by simp)) Bool.false_ne_true
        · rw [hEq, hDelete]
          exact (release_armed hNew rfl).trans hIdle.symm

theorem call_sound_iff (h : Owned s) (c : Call) : Sound s c ↔ Clear s (.call c) := by
  cases c with
  | stop o => exact ⟨fun _ => trivial, fun _ => stop_sound h o⟩
  | start timeMs o =>
    by_cases hTime : timeMs = 0
    · have hEq : (Call.start timeMs o).outcome s = ⟨-1, [], s⟩ := by
        simp only [Call.outcome, espHostedPowerSaveTimerStart, hTime, if_true]
      refine ⟨fun _ => Or.inl hTime, fun _ => ⟨by rw [hEq]; exact h, ?_, fun _ => by rw [hEq]⟩⟩
      exact fun hNe => absurd hTime hNe
    · cases hHandle : s.timerHandle with
      | none =>
        rw [start_null_sound_iff h hTime o hHandle]
        simp only [Clear, hTime, hHandle, true_and, false_or]
      | some t =>
        simp only [Clear, hTime, hHandle, reduceCtorEq, false_and, or_false, iff_false]
        exact start_armed_not_sound h hTime o hHandle

theorem owned_step {a : Action} (h : Owned s) (hClear : Clear s a) (hStep : step s a = some s') :
    Owned s' := by
  cases a with
  | call c =>
    cases hStep
    exact ((call_sound_iff h c).mpr hClear).owned
  | expire a => exact expire_owned h hStep

/-- For every sequence of calls and expiries. -/
theorem life_cycle (hRun : Reaches step Clear boot s) :
    Owned s ∧ ∀ c, Sound s c ↔ Clear s (.call c) := by
  have hOwned := hRun.invariant boot_owned fun _ _ _ h hClear hStep => owned_step h hClear hStep
  exact ⟨hOwned, call_sound_iff hOwned⟩

def working : Osal := ⟨true, true, true, true⟩

/-- A timer is armed, expires, is stopped and armed again. -/
theorem life_cycle_again : ∃ s, Reaches step Clear boot s ∧ s.armed = [⟨1, 500⟩] ∧ Owned s ∧
    ∀ c, Sound s c ↔ Clear s (.call c) := by
  obtain ⟨s, hRun, hEq⟩ := Option.map_eq_some_iff.mp (show (runGuarded step Clear boot
      [.call (.start 1000 working), .expire ⟨0, 1000⟩, .call (.stop working),
        .call (.start 500 working)]).map State.armed = some [⟨1, 500⟩] by decide +kernel)
  exact ⟨s, .of_run hRun, hEq, life_cycle (.of_run hRun)⟩

/-- After an expiry the next start fails. -/
theorem not_started : ∃ s, Reaches step anyStep boot s ∧ s.armed = [] ∧
    (espHostedPowerSaveTimerStart s 500 working).ret = -1 ∧ ¬ Sound s (.start 500 working) := by
  obtain ⟨s, hRun, hEq⟩ := Option.map_eq_some_iff.mp (show (run step boot
      [.call (.start 1000 working), .expire ⟨0, 1000⟩]).map
      (fun s => (s.armed, (espHostedPowerSaveTimerStart s 500 working).ret,
        (espHostedPowerSaveTimerStart s 500 working).answers)) = some ([], -1, [true]) by
      decide +kernel)
  simp only [Prod.mk.injEq] at hEq
  obtain ⟨hIdle, hRet, hAnswers⟩ := hEq
  refine ⟨s, .of_plain_run hRun, hIdle, hRet, fun hSound => ?_⟩
  have hStarts := hSound.starts
  simp only [Starts, Call.outcome, hRet, hAnswers] at hStarts
  exact absurd (hStarts (by decide) hIdle (by simp)).1 (by decide)

end EspHosted.Power.SleepTimer
