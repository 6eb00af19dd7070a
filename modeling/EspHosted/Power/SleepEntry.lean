import EspHosted.Lib.Machine

/-!
# Entering host power save

`esp_hosted_power_save_start` tells the slave that the host is going to sleep, clears the
interrupt that would notice a reset of the slave, holds the reset pin of the slave and configures
the wake-up. If all of this succeeds it does not return. Each step has an exit of its own, and
none of them takes back what was done before it.

* `power_save_on_entered`: the flag is set only after a start that did all of this;
* `atomic_iff`: exactly when a start that fails leaves nothing behind.
-/

namespace EspHosted.Power.SleepEntry

open Machine

/-! ## Model -/

/-- `esp_hosted_power_save_type_t`. -/
inductive PsType
  | none
  | lightSleep
  | deepSleep
  deriving DecidableEq

/-- What the slave is told. -/
inductive Note
  | start
  | stop
  deriving DecidableEq

/-- Which steps of the last start succeeded that came as far as telling the slave. -/
structure Entry where
  notified : Bool
  held : Bool
  configured : Bool
  deriving DecidableEq

/-- `intr` says that the interrupt of the wake-up GPIO is registered, `held` that the reset GPIO is
held, and `notes` has what the slave was told, the last one first. -/
structure State where
  powerSaveOn : Bool
  initDone : Bool
  resetInProgress : Bool
  intr : Bool
  held : Bool
  notes : List Note
  entry : Entry

def boot : State :=
  { powerSaveOn := false, initDone := false, resetInProgress := false, intr := false, held := false,
    notes := [], entry := ⟨false, false, false⟩ }

/-- The answers around a start: whether the slave can be told, whether the wake-up interrupt comes
meanwhile, `esp_hosted_transport_get_reset_config`, the reset pin, `h_gpio_hold` and
`h_config_host_power_save_hal`. -/
structure Env where
  notifyOk : Bool
  interrupted : Bool
  resetConfigOk : Bool
  pinSet : Bool
  holdOk : Bool
  configOk : Bool

/-- `wakeup_gpio_isr_handler` with the level of a reset. -/
def wakeupGpioIsrHandler (s : State) : State :=
  if s.intr && !s.powerSaveOn && !s.resetInProgress then
    { s with resetInProgress := true, intr := false }
  else s

/-- `esp_hosted_power_save_init`. -/
def espHostedPowerSaveInit (s : State) (intrOk : Bool) : State :=
  if s.initDone then s
  else
    { s with powerSaveOn := false, resetInProgress := false, intr := s.intr || intrOk,
             initDone := true }

/-- `esp_hosted_power_save_deinit`. -/
def espHostedPowerSaveDeinit (s : State) : State :=
  if s.powerSaveOn then s else { s with initDone := false, intr := false }

/-- `hold_slave_reset_gpio_pre_power_save`, 0 for success. -/
def holdSlaveResetGpioPrePowerSave (s : State) (env : Env) : Int × State :=
  if env.resetConfigOk = false then (-1, s)
  else if env.pinSet = false then (-1, s)
  else if env.holdOk = false then (-1, s)
  else (0, { s with held := true })

/-- `release_slave_reset_gpio_post_wakeup`. -/
def releaseSlaveResetGpioPostWakeup (s : State) (env : Env) : State :=
  if env.resetConfigOk && env.pinSet && env.holdOk then { s with held := false } else s

/-- Before the start, or after the interrupt that comes during it. -/
def State.arrive (s : State) (env : Env) : State :=
  if env.interrupted then wakeupGpioIsrHandler s else s

/-- What a start returns, or that it does not, and what it told the slave. -/
structure Outcome where
  ret : Option Int
  sent : List Note
  state : State

def espHostedPowerSaveStart (s : State) (psType : PsType) (env : Env) : Outcome :=
  if s.powerSaveOn then ⟨some 0, [], s⟩
  else if s.initDone = false then ⟨some (-1), [], s⟩
  else if psType ≠ .deepSleep then ⟨some (-1), [], s⟩
  else
    let s := s.arrive env
    if env.notifyOk = false then ⟨some (-1), [], { s with entry := ⟨false, false, false⟩ }⟩
    else
      let s := { s with notes := .start :: s.notes, entry := ⟨true, false, false⟩ }
      if s.resetInProgress then ⟨some (-1), [.start], s⟩
      else
        let s := { s with intr := false }
        let (ret, s) := holdSlaveResetGpioPrePowerSave s env
        if ret ≠ 0 then ⟨some (-1), [.start], s⟩
        else
          let s := { s with entry := ⟨true, true, false⟩ }
          if env.configOk = false then ⟨some (-1), [.start], s⟩
          else ⟨none, [.start], { s with powerSaveOn := true, entry := ⟨true, true, true⟩ }⟩

/-- `stop_host_power_save`. -/
def stopHostPowerSave (s : State) (notifyOk : Bool) : State :=
  if notifyOk then { s with notes := .stop :: s.notes, powerSaveOn := false } else s

/-- The host starts again, after a sleep or otherwise. The pin stays as it is, and the slave has
been told what it has been told. -/
def restart (s : State) : State := { boot with held := s.held, notes := s.notes, entry := s.entry }

inductive Action
  | isr
  | init (intrOk : Bool)
  | deinit
  | start (psType : PsType) (env : Env)
  | stop (notifyOk : Bool)
  | release (env : Env)
  | restart

def step (s : State) : Action → Option State
  | .isr => some (wakeupGpioIsrHandler s)
  | .init intrOk => some (espHostedPowerSaveInit s intrOk)
  | .deinit => some (espHostedPowerSaveDeinit s)
  | .start psType env => some (espHostedPowerSaveStart s psType env).state
  | .stop notifyOk => some (stopHostPowerSave s notifyOk)
  | .release env => some (releaseSlaveResetGpioPostWakeup s env)
  | .restart => some (restart s)

/-! ## What a failed start leaves -/

/-- If a start fails, the slave is told nothing or that the host is awake, the interrupt is still
registered and the pin is not held by it. -/
structure Atomic (s : State) (env : Env) (o : Outcome) : Prop where
  told : o.ret = some (-1) → o.sent = [] ∨ o.sent.getLast? = some .stop
  intr : o.ret = some (-1) → (s.arrive env).intr = true → o.state.intr = true
  held : o.ret = some (-1) → o.state.held = true → s.held = true

/-- The start has nothing to do, or is refused before the slave is told or because it cannot be
told, or nothing fails. -/
def Smooth (s : State) (psType : PsType) (env : Env) : Prop :=
  s.powerSaveOn = true ∨ s.initDone = false ∨ psType ≠ .deepSleep ∨ env.notifyOk = false ∨
    ((s.arrive env).resetInProgress = false ∧ env.resetConfigOk = true ∧ env.pinSet = true ∧
      env.holdOk = true ∧ env.configOk = true)

variable {s s' : State} {psType : PsType} {env : Env}

theorem intr_of_arrive (h : (s.arrive env).intr = true) : s.intr = true := by
  unfold State.arrive wakeupGpioIsrHandler at h
  split at h
  · split at h
    · cases h
    · exact h
  · exact h

theorem arrive_same (s : State) (env : Env) :
    (s.arrive env).powerSaveOn = s.powerSaveOn ∧ (s.arrive env).held = s.held := by
  unfold State.arrive wakeupGpioIsrHandler
  split
  · split <;> exact ⟨rfl, rfl⟩
  · exact ⟨rfl, rfl⟩

theorem hold_eq (s : State) (env : Env) : holdSlaveResetGpioPrePowerSave s env =
    if env.resetConfigOk = true ∧ env.pinSet = true ∧ env.holdOk = true then
      (0, { s with held := true }) else (-1, s) := by
  unfold holdSlaveResetGpioPrePowerSave
  cases env.resetConfigOk <;> cases env.pinSet <;> cases env.holdOk <;> rfl

/-- What it takes once the slave is told. -/
theorem smooth_iff (hOn : s.powerSaveOn = false) (hInit : s.initDone = true)
    (hType : psType = .deepSleep) (hNotify : env.notifyOk = true) :
    Smooth s psType env ↔ (s.arrive env).resetInProgress = false ∧
      (env.resetConfigOk = true ∧ env.pinSet = true ∧ env.holdOk = true) ∧
        env.configOk = true := by
  constructor
  · rintro (h | h | h | h | ⟨hReset, hConfig, hPin, hHold, hWakeup⟩)
    · exact absurd (hOn.symm.trans h) Bool.false_ne_true
    · exact absurd (h.symm.trans hInit) Bool.false_ne_true
    · exact absurd hType h
    · exact absurd (h.symm.trans hNotify) Bool.false_ne_true
    · exact ⟨hReset, ⟨hConfig, hPin, hHold⟩, hWakeup⟩
  · rintro ⟨hReset, ⟨hConfig, hPin, hHold⟩, hWakeup⟩
    exact Or.inr (Or.inr (Or.inr (Or.inr ⟨hReset, hConfig, hPin, hHold, hWakeup⟩)))

/-- The start from the point where the slave is told. -/
theorem start_told (hOn : s.powerSaveOn = false) (hInit : s.initDone = true)
    (hType : psType = .deepSleep) (hNotify : env.notifyOk = true) :
    (¬ Smooth s psType env ∧
      ∃ t, espHostedPowerSaveStart s psType env = ⟨some (-1), [.start], t⟩ ∧
        t.powerSaveOn = false) ∨
    (Smooth s psType env ∧ ∃ t, espHostedPowerSaveStart s psType env = ⟨none, [.start], t⟩ ∧
      t.entry = ⟨true, true, true⟩) := by
  have hArrive : (s.arrive env).powerSaveOn = false := (arrive_same s env).1.trans hOn
  rw [smooth_iff hOn hInit hType hNotify]
  generalize hOut : espHostedPowerSaveStart s psType env = o
  simp only [espHostedPowerSaveStart, hOn, hInit, hType, hNotify, hold_eq, Bool.false_eq_true,
    Bool.true_eq_false, if_false, ne_eq, not_true_eq_false] at hOut
  subst hOut
  cases hReset : (s.arrive env).resetInProgress with
  | true =>
    exact Or.inl ⟨fun h => Bool.false_ne_true h.1.symm, _, if_pos rfl, hArrive⟩
  | false =>
    rw [if_neg Bool.false_ne_true]
    by_cases hHold : env.resetConfigOk = true ∧ env.pinSet = true ∧ env.holdOk = true
    · rw [if_pos hHold]
      cases hConfig : env.configOk with
      | false =>
        exact Or.inl ⟨fun h => Bool.false_ne_true h.2.2, _, rfl, hArrive⟩
      | true => exact Or.inr ⟨⟨rfl, hHold, rfl⟩, _, rfl, rfl⟩
    · rw [if_neg hHold]
      exact Or.inl ⟨fun h => hHold h.2.1, _, rfl, hArrive⟩

/-- The exits of a start: it has nothing to do, it is refused or the slave cannot be told, it
fails after the slave was told, or it does not return. -/
theorem start_cases (s : State) (psType : PsType) (env : Env) :
    (s.powerSaveOn = true ∧ espHostedPowerSaveStart s psType env = ⟨some 0, [], s⟩) ∨
    (s.powerSaveOn = false ∧ (s.initDone = false ∨ psType ≠ .deepSleep ∨ env.notifyOk = false) ∧
      ∃ t, espHostedPowerSaveStart s psType env = ⟨some (-1), [], t⟩ ∧ t.powerSaveOn = false ∧
        t.held = s.held ∧ ((s.arrive env).intr = true → t.intr = true)) ∨
    (s.powerSaveOn = false ∧ s.initDone = true ∧ psType = .deepSleep ∧ env.notifyOk = true ∧
      ¬ Smooth s psType env ∧
      ∃ t, espHostedPowerSaveStart s psType env = ⟨some (-1), [.start], t⟩ ∧
        t.powerSaveOn = false) ∨
    (Smooth s psType env ∧ ∃ t, espHostedPowerSaveStart s psType env = ⟨none, [.start], t⟩ ∧
      t.entry = ⟨true, true, true⟩) := by
  cases hOn : s.powerSaveOn with
  | true => exact Or.inl ⟨rfl, if_pos hOn⟩
  | false =>
    refine Or.inr ?_
    have hNotOn : ¬ s.powerSaveOn = true := fun h => Bool.false_ne_true (hOn.symm.trans h)
    by_cases hInit : s.initDone = false
    · refine Or.inl ⟨rfl, Or.inl hInit, s, ?_, hOn, rfl, intr_of_arrive⟩
      rw [espHostedPowerSaveStart, if_neg hNotOn, if_pos hInit]
    by_cases hType : psType = .deepSleep
    · cases hNotify : env.notifyOk with
      | false =>
        refine Or.inl ⟨rfl, Or.inr (Or.inr rfl),
          { s.arrive env with entry := ⟨false, false, false⟩ }, ?_,
          (arrive_same s env).1.trans hOn, (arrive_same s env).2, id⟩
        rw [espHostedPowerSaveStart, if_neg hNotOn, if_neg hInit, if_neg (not_not.mpr hType)]
        exact if_pos hNotify
      | true =>
        have hInit' : s.initDone = true := by rwa [Bool.not_eq_false] at hInit
        rcases start_told hOn hInit' hType hNotify with ⟨hNot, hEnd⟩ | hEnd
        · exact Or.inr (Or.inl ⟨rfl, hInit', hType, rfl, hNot, hEnd⟩)
        · exact Or.inr (Or.inr hEnd)
    · refine Or.inl ⟨rfl, Or.inr (Or.inl hType), s, ?_, hOn, rfl, intr_of_arrive⟩
      rw [espHostedPowerSaveStart, if_neg hNotOn, if_neg hInit, if_pos hType]

/-! ## When the flag is set -/

/-- The flag is set only after a start in which every step succeeded. -/
def Entered (s : State) : Prop := s.powerSaveOn = true → s.entry = ⟨true, true, true⟩

theorem start_entered (h : Entered s) (psType : PsType) (env : Env) :
    Entered (espHostedPowerSaveStart s psType env).state := by
  rcases start_cases s psType env with ⟨-, hEq⟩ | ⟨-, -, t, hEq, hOff, -⟩ |
    ⟨-, -, -, -, -, t, hEq, hOff⟩ | ⟨-, t, hEq, hEntry⟩
  · rw [hEq]
    exact h
  · rw [hEq]
    exact fun hOn => absurd (hOff.symm.trans hOn) Bool.false_ne_true
  · rw [hEq]
    exact fun hOn => absurd (hOff.symm.trans hOn) Bool.false_ne_true
  · rw [hEq]
    exact fun _ => hEntry

theorem step_entered {a : Action} (h : Entered s) (hStep : step s a = some s') : Entered s' := by
  cases a with
  | isr =>
    cases hStep
    unfold wakeupGpioIsrHandler
    split <;> exact h
  | init intrOk =>
    cases hStep
    unfold espHostedPowerSaveInit
    split
    · exact h
    · exact nofun
  | deinit =>
    cases hStep
    unfold espHostedPowerSaveDeinit
    split <;> exact h
  | start psType env => cases hStep; exact start_entered h psType env
  | stop notifyOk =>
    cases hStep
    unfold stopHostPowerSave
    split
    · exact nofun
    · exact h
  | release env =>
    cases hStep
    unfold releaseSlaveResetGpioPostWakeup
    split <;> exact h
  | restart => cases hStep; exact nofun

theorem power_save_on_entered (hRun : Reaches step anyStep boot s) : Entered s :=
  hRun.invariant nofun fun _ _ _ h _ hStep => step_entered h hStep

/-- In every state that is reached, for every failure. -/
theorem atomic_iff (hRun : Reaches step anyStep boot s) (psType : PsType) (env : Env) :
    (s.powerSaveOn = true → s.entry = ⟨true, true, true⟩) ∧
    (Atomic s env (espHostedPowerSaveStart s psType env) ↔ Smooth s psType env) := by
  refine ⟨power_save_on_entered hRun, ?_⟩
  rcases start_cases s psType env with ⟨hOn, hEq⟩ | ⟨-, hRefused, t, hEq, -, hHeld, hIntr⟩ |
    ⟨-, -, -, -, hNot, t, hEq, -⟩ | ⟨hSmooth, t, hEq, -⟩
  · rw [hEq]
    exact ⟨fun _ => Or.inl hOn, fun _ => ⟨nofun, nofun, nofun⟩⟩
  · rw [hEq]
    refine ⟨fun _ => ?_, fun _ => ⟨fun _ => Or.inl rfl, fun _ => hIntr, fun _ h => hHeld ▸ h⟩⟩
    rcases hRefused with hInit | hType | hNotify
    · exact Or.inr (Or.inl hInit)
    · exact Or.inr (Or.inr (Or.inl hType))
    · exact Or.inr (Or.inr (Or.inr (Or.inl hNotify)))
  · rw [hEq]
    refine ⟨fun hAtomic => ?_, fun hSmooth => absurd hSmooth hNot⟩
    rcases hAtomic.told rfl with hSent | hLast
    · cases hSent
    · cases hLast
  · rw [hEq]
    exact ⟨fun _ => hSmooth, fun _ => ⟨nofun, nofun, nofun⟩⟩

/-- Nothing fails. -/
def working : Env := ⟨true, false, true, true, true, true⟩

/-- The host sleeps, wakes up, and is initialised for the next start. -/
theorem atomic_iff_again : ∃ s, Reaches step anyStep boot s ∧ s.intr = true ∧
    s.notes = [.stop, .start] ∧ ∀ psType env,
      (s.powerSaveOn = true → s.entry = ⟨true, true, true⟩) ∧
      (Atomic s env (espHostedPowerSaveStart s psType env) ↔ Smooth s psType env) := by
  obtain ⟨s, hs, hEq⟩ := Option.map_eq_some_iff.mp (show (run step boot
      [.init true, .start .deepSleep working, .restart, .release working, .stop true,
        .init true]).map (fun s => (s.intr, s.notes)) = some (true, [.stop, .start]) by
      decide +kernel)
  rw [Prod.mk.injEq] at hEq
  have hRun : Reaches step anyStep boot s := .of_plain_run hs
  exact ⟨s, hRun, hEq.1, hEq.2, atomic_iff hRun⟩

/-- The wake-up cannot be configured. The slave believes that the host sleeps, its resets are not
noticed any more, and its reset pin is held. -/
theorem not_atomic : ∃ s, Reaches step anyStep boot s ∧
    (espHostedPowerSaveStart s .deepSleep { working with configOk := false }).ret = some (-1) ∧
    (espHostedPowerSaveStart s .deepSleep { working with configOk := false }).sent = [.start] ∧
    ¬ Atomic s { working with configOk := false }
      (espHostedPowerSaveStart s .deepSleep { working with configOk := false }) := by
  obtain ⟨s, hs, hEq⟩ := Option.map_eq_some_iff.mp (show (run step boot [.init true]).map
      (fun s => ((espHostedPowerSaveStart s .deepSleep { working with configOk := false }).ret,
        (espHostedPowerSaveStart s .deepSleep { working with configOk := false }).sent)) =
      some (some (-1), [.start]) by decide +kernel)
  rw [Prod.mk.injEq] at hEq
  refine ⟨s, .of_plain_run hs, hEq.1, hEq.2, fun hAtomic => ?_⟩
  have hTold := hAtomic.told hEq.1
  rw [hEq.2] at hTold
  exact absurd hTold (by decide)

end EspHosted.Power.SleepEntry
