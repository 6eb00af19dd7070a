import Mathlib.Algebra.BigOperators.Group.List.Basic
import Mathlib.Algebra.GroupWithZero.Nat
import Mathlib.Algebra.Order.BigOperators.Group.List
import Mathlib.Algebra.Order.Group.Nat

/-!
# The result of waking the host up

`trigger_host_wakeup` raises the wake-up pin in rounds until it gets `wakeup_sem` or its time is
over. Its clock counts tenths of a millisecond, while `timeout_ms` is in milliseconds.
`wakeup_host` and `wakeup_host_mandate` return its result or, before it is called, another
number; every number except zero is a success for `process_tx_pkt`.

Times are those that pass since `trigger_host_wakeup` or the function around it was called.

* `loop_some`: how a wait ends;
* `trigger_lawful_iff`: when a wait does not give up too early;
* `wakeup_iff`: when the three functions keep to their law.
-/

namespace EspHosted.Power.WakeupHost

/-! ## Model -/

/-- `portMAX_DELAY` -/
def portMaxDelay : Nat := 4294967295

/-- `esp_timer_get_time()/100`, of a time in microseconds. -/
def getCurrTimeInMs (us : Nat) : Nat := us / 100

/-- What happens in a round: `elapsedUs` passes until the round ends, the calls of `esp_timer`
succeed or fail, and `wakeup_sem` is there and taken. -/
structure Round where
  elapsedUs : Nat
  createOk : Bool
  startOk : Bool
  semTaken : Bool
  deriving DecidableEq

structure Wait where
  startUs : Nat
  rounds : List Round

/-- What a call returns, whether it saw the host awake, and the time it took. -/
structure Result where
  ret : Int
  awake : Bool
  elapsedUs : Nat
  deriving DecidableEq

/-- The time of the wait is over, by the clock of the code. -/
def Overdue (timeoutMs startUs us : Nat) : Prop :=
  timeoutMs < getCurrTimeInMs (startUs + us) - getCurrTimeInMs startUs

instance (timeoutMs startUs us : Nat) : Decidable (Overdue timeoutMs startUs us) :=
  inferInstanceAs (Decidable (_ < _))

/-- The loop of `trigger_host_wakeup`, after `us` and with `timer` if it is created. It has no
result while it is waiting. -/
def loop (timeoutMs startUs : Nat) (timer : Bool) (us : Nat) : List Round → Option Result
  | [] => none
  | q :: rest =>
    let us := us + q.elapsedUs
    if (timer || q.createOk) = false then some ⟨0, false, us⟩
    else if q.startOk = false then some ⟨0, false, us⟩
    else if q.semTaken then some ⟨1, true, us⟩
    else if Overdue timeoutMs startUs us then some ⟨0, false, us⟩
    else loop timeoutMs startUs true us rest

def triggerHostWakeup (w : Wait) (timeoutMs : Nat) : Option Result :=
  loop timeoutMs w.startUs false 0 w.rounds

/-- What the functions around it see. `saving` is `power_save_on` at the entry, `stillSaving`
after the driver was initialised, and `beforeUs` the time until the wait or an earlier return. -/
structure Env where
  hostPsAllowed : Bool
  enable : Bool
  saving : Bool
  stillSaving : Bool
  gpioConfig : Int
  gpioPull : Int
  handles : Bool
  deinit : Bool
  initOk : Bool
  beforeUs : Nat
  wait : Wait

def Result.after (us : Nat) (r : Result) : Result := { r with elapsedUs := us + r.elapsedUs }

def configureHostWakeupGpio (e : Env) : Int :=
  if e.gpioConfig ≠ 0 then e.gpioConfig else e.gpioPull

def wakeupHostMandate (e : Env) (timeoutMs : Nat) : Option Result :=
  if e.hostPsAllowed = false then some ⟨1, false, e.beforeUs⟩
  else if configureHostWakeupGpio e ≠ 0 then
    some ⟨configureHostWakeupGpio e, false, e.beforeUs⟩
  else (triggerHostWakeup e.wait timeoutMs).map (Result.after e.beforeUs)

def isHostPowerSaving (e : Env) : Bool := e.hostPsAllowed && e.saving

/-- The result of `wakeup_host` with a driver that is initialised again is one, unless the host
still sleeps. -/
def wakeupHost (e : Env) (timeoutMs : Nat) : Option Result :=
  if e.hostPsAllowed = false then some ⟨1, false, e.beforeUs⟩
  else if e.saving = false then some ⟨1, true, e.beforeUs⟩
  else if e.enable = false then some ⟨1, false, e.beforeUs⟩
  else if e.handles = false then some ⟨0, false, e.beforeUs⟩
  else if e.deinit && !e.initOk then some ⟨-1, false, e.beforeUs⟩
  else if e.stillSaving then
    (triggerHostWakeup e.wait timeoutMs).map (Result.after e.beforeUs)
  else some ⟨if e.deinit then 1 else 0, true, e.beforeUs⟩

/-- `esp_hosted_if_type_t` -/
inductive IfType
  | invalid
  | sta
  | ap
  | serial
  | hci
  | priv
  | test
  | eth
  | max
  deriving DecidableEq

/-- `flowCtrl` is `wifi_flow_ctrl_en` on a bus with flow control packets. -/
structure Packet where
  ifType : IfType
  payload : Bool
  flowCtrl : Bool

def isHostWakeupNeeded (p : Packet) : Bool :=
  if p.flowCtrl then true
  else if p.payload = false then false
  else
    match p.ifType with
    | .serial | .hci | .priv | .test | .sta | .ap => true
    | .invalid | .eth | .max => false

/-- `written` tells that `if_ops->write` is called, `wakeup` is the result of `wakeup_host`. -/
structure Sent where
  written : Bool
  wakeup : Option Result

def processTxPkt (e : Env) (datapath ops : Bool) (p : Packet) : Option Sent :=
  if datapath = false then some ⟨false, none⟩
  else if ops = false then some ⟨false, none⟩
  else if isHostPowerSaving e && isHostWakeupNeeded p then
    (wakeupHost e portMaxDelay).map fun r => ⟨decide (r.ret ≠ 0), some r⟩
  else some ⟨true, none⟩

/-! ## The law -/

/-- Power save is in force when the call begins. -/
def Env.InForce (e : Env) : Prop := e.hostPsAllowed = true ∧ e.enable = true ∧ e.saving = true

/-- It is not too early to give up. -/
def Late (timeoutMs us : Nat) : Prop := timeoutMs ≠ portMaxDelay ∧ timeoutMs * 1000 ≤ us

def Result.Truthful (e : Env) (r : Result) : Prop := r.ret ≠ 0 → r.awake = true ∨ ¬ e.InForce

structure Result.Lawful (e : Env) (timeoutMs : Nat) (r : Result) : Prop where
  truthful : r.Truthful e
  patient : r.ret = 0 → Late timeoutMs r.elapsedUs

/-- Drivers do not take a packet that carries nothing. -/
def Packet.Carries (p : Packet) : Prop := p.payload = true ∨ p.flowCtrl = true

def Sent.Lawful (e : Env) (p : Packet) (o : Sent) : Prop :=
  isHostPowerSaving e = true → o.written = true → p.Carries →
    ∃ r, o.wakeup = some r ∧ r.ret ≠ 0 ∧ r.Truthful e

/-! ## The wait -/

def total (rounds : List Round) : Nat := (rounds.map Round.elapsedUs).sum

/-- The timer runs in all of these rounds, and none of them gets the semaphore. -/
def Quiet (timer : Bool) (rounds : List Round) : Prop :=
  (∀ q ∈ rounds, q.startOk = true ∧ q.semTaken = false) ∧
    (timer = false → ∀ q ∈ rounds.head?, q.createOk = true)

/-- After these rounds `esp_timer` fails in round `q`. -/
def Fails (timer : Bool) (pre : List Round) (q : Round) : Prop :=
  (timer = false ∧ pre = [] ∧ q.createOk = false) ∨ q.startOk = false

variable {timeoutMs startUs us : Nat} {timer : Bool} {rounds : List Round} {r : Result}

/-- A round that neither fails nor gets the semaphore nor is overdue is followed by the next. -/
theorem quiet_cons {q : Round} {pre : List Round} (hCreate : (timer || q.createOk) = true)
    (hStart : q.startOk = true) (hSem : q.semTaken = false) (hPre : Quiet true pre) :
    Quiet timer (q :: pre) := by
  refine ⟨fun p hp => ?_, fun hTimer p hp => ?_⟩
  · rcases List.mem_cons.mp hp with rfl | hRest
    · exact ⟨hStart, hSem⟩
    · exact hPre.1 p hRest
  · rw [List.head?_cons, Option.mem_some_iff] at hp
    rw [hTimer, Bool.false_or] at hCreate
    rw [← hp]
    exact hCreate

/-- A wait ends with the semaphore, with a failure, or overdue. -/
theorem loop_some (h : loop timeoutMs startUs timer us rounds = some r) :
    ∃ pre q post, rounds = pre ++ q :: post ∧ Quiet timer pre ∧
      (pre ≠ [] → ¬ Overdue timeoutMs startUs (us + total pre)) ∧
      ((r.ret = 1 ∧ r.awake = true) ∨
        (r = ⟨0, false, us + total (pre ++ [q])⟩ ∧ (Fails timer pre q ∨
          (q.semTaken = false ∧ Overdue timeoutMs startUs (us + total (pre ++ [q])))))) := by
  induction rounds generalizing timer us with
  | nil => simp [loop] at h
  | cons q rest ih =>
    have hNil : Quiet timer [] := ⟨nofun, nofun⟩
    have hTotal : us + total ([] ++ [q]) = us + q.elapsedUs := by simp [total]
    unfold loop at h
    simp only at h
    split at h
    · rename_i hCreate
      rw [Bool.or_eq_false_iff] at hCreate
      cases h
      exact ⟨[], q, rest, rfl, hNil, absurd rfl,
        Or.inr ⟨by rw [hTotal], Or.inl (Or.inl ⟨hCreate.1, rfl, hCreate.2⟩)⟩⟩
    · rename_i hCreate
      split at h
      · rename_i hStart
        cases h
        exact ⟨[], q, rest, rfl, hNil, absurd rfl,
          Or.inr ⟨by rw [hTotal], Or.inl (Or.inr hStart)⟩⟩
      · rename_i hStart
        split at h
        · cases h
          exact ⟨[], q, rest, rfl, hNil, absurd rfl, Or.inl ⟨rfl, rfl⟩⟩
        · rename_i hSem
          split at h
          · rename_i hOver
            cases h
            refine ⟨[], q, rest, rfl, hNil, absurd rfl, Or.inr ⟨by rw [hTotal], Or.inr ⟨?_, ?_⟩⟩⟩
            · exact Bool.of_not_eq_true hSem
            · rw [hTotal]
              exact hOver
          · rename_i hOver
            obtain ⟨pre, p, post, hRounds, hQuiet, hTime, hEnd⟩ := ih h
            have hSum (l : List Round) : us + total (q :: l) = us + q.elapsedUs + total l := by
              simp only [total, List.map_cons, List.sum_cons]
              omega
            refine ⟨q :: pre, p, post, by rw [hRounds]; rfl, ?_, fun _ => ?_, ?_⟩
            · exact quiet_cons (Bool.of_not_eq_false hCreate) (Bool.of_not_eq_false hStart)
                (Bool.of_not_eq_true hSem) hQuiet
            · rw [hSum]
              rcases pre with _ | ⟨p', pre⟩
              · exact hOver
              · exact hTime (List.cons_ne_nil _ _)
            · rw [List.cons_append, hSum]
              refine hEnd.imp_right fun hZero => ⟨hZero.1, hZero.2.imp_left fun hFail => ?_⟩
              refine Or.inr (hFail.resolve_left fun hNew => ?_)
              exact absurd hNew.1 (by decide)

/-- The time of a wait only grows. -/
theorem overdue_mono {us' : Nat} (hLe : us ≤ us') (h : Overdue timeoutMs startUs us) :
    Overdue timeoutMs startUs us' := by
  unfold Overdue getCurrTimeInMs at *
  omega

/-- A wait whose quiet rounds are not overdue comes to the round after them. -/
theorem loop_append {pre post : List Round} (hQuiet : Quiet timer pre)
    (hTime : pre ≠ [] → ¬ Overdue timeoutMs startUs (us + total pre)) :
    loop timeoutMs startUs timer us (pre ++ post) =
      loop timeoutMs startUs (timer || !pre.isEmpty) (us + total pre) post := by
  induction pre generalizing timer us with
  | nil => simp [total]
  | cons q pre ih =>
    have hSum : us + total (q :: pre) = us + q.elapsedUs + total pre := by
      simp only [total, List.map_cons, List.sum_cons]
      omega
    have hNot := hTime (List.cons_ne_nil _ _)
    rw [hSum] at hNot
    obtain ⟨hStart, hSem⟩ := hQuiet.1 q List.mem_cons_self
    have hCreate : (timer || q.createOk) = true := by
      cases timer with
      | true => rfl
      | false => exact hQuiet.2 rfl q rfl
    have hNow : ¬ Overdue timeoutMs startUs (us + q.elapsedUs) :=
      fun hOver => hNot (overdue_mono (Nat.le_add_right _ _) hOver)
    rw [List.cons_append, loop]
    simp only [hCreate, hStart, hSem, hNow, Bool.true_eq_false, Bool.false_eq_true, if_false]
    have hRest : Quiet true pre :=
      ⟨fun p hp => hQuiet.1 p (List.mem_cons_of_mem q hp), fun hTimer => absurd hTimer (by decide)⟩
    rw [ih hRest fun _ => hNot, hSum]
    simp

/-- No round in which `esp_timer` fails, and no round that is the first one overdue without the
semaphore, ends too early. -/
def Wait.NotEarly (w : Wait) (timeoutMs beforeUs : Nat) : Prop :=
  ∀ pre q post, w.rounds = pre ++ q :: post → Quiet false pre →
    (pre ≠ [] → ¬ Overdue timeoutMs w.startUs (total pre)) →
    Fails false pre q ∨ (q.semTaken = false ∧ Overdue timeoutMs w.startUs (total (pre ++ [q]))) →
    Late timeoutMs (beforeUs + total (pre ++ [q]))

/-- A round that fails or is overdue ends the wait. -/
theorem loop_ends {q : Round} {post : List Round} {pre : List Round}
    (hEnd : Fails timer pre q ∨ (q.semTaken = false ∧
      Overdue timeoutMs startUs (us + q.elapsedUs))) :
    loop timeoutMs startUs (timer || !pre.isEmpty) us (q :: post) =
      some ⟨0, false, us + q.elapsedUs⟩ := by
  rw [loop]
  rcases hEnd with (⟨rfl, rfl, hCreate⟩ | hStart) | ⟨hSem, hOver⟩
  · simp [hCreate]
  · simp [hStart]
  · simp [hSem, hOver]

theorem trigger_lawful_iff (e : Env) (timeoutMs beforeUs : Nat) :
    (∀ r, (triggerHostWakeup e.wait timeoutMs).map (Result.after beforeUs) = some r →
      r.Lawful e timeoutMs) ↔ e.wait.NotEarly timeoutMs beforeUs := by
  refine ⟨fun hAll pre q post hRounds hQuiet hTime hEnd => ?_, fun hNot r hRes => ?_⟩
  · have hSum : total (pre ++ [q]) = total pre + q.elapsedUs := by simp [total]
    have hRun : triggerHostWakeup e.wait timeoutMs =
        some ⟨0, false, total (pre ++ [q])⟩ := by
      have hPre : loop timeoutMs e.wait.startUs false 0 (pre ++ q :: post) = _ :=
        loop_append hQuiet (by rw [Nat.zero_add]; exact hTime)
      rw [triggerHostWakeup, hRounds, hPre, Nat.zero_add, hSum]
      exact loop_ends (by rw [← hSum]; exact hEnd)
    exact (hAll ⟨0, false, beforeUs + total (pre ++ [q])⟩ (by rw [hRun]; rfl)).patient rfl
  · obtain ⟨w, hRun, rfl⟩ := Option.map_eq_some_iff.mp hRes
    obtain ⟨pre, q, post, hRounds, hQuiet, hTime, hEnd⟩ := loop_some hRun
    simp only [Nat.zero_add] at hTime hEnd
    rcases hEnd with ⟨hRet, hAwake⟩ | ⟨rfl, hWhy⟩
    · refine ⟨fun _ => Or.inl hAwake, fun hZero => ?_⟩
      exact absurd (hRet.symm.trans hZero) (by decide)
    · exact ⟨absurd rfl, fun _ => hNot pre q post hRounds hQuiet hTime hWhy⟩

/-- A wait that succeeds saw the host awake. -/
theorem trigger_truthful {e : Env} {beforeUs : Nat}
    (h : (triggerHostWakeup e.wait timeoutMs).map (Result.after beforeUs) = some r) :
    r.Truthful e := by
  obtain ⟨w, hRun, rfl⟩ := Option.map_eq_some_iff.mp h
  obtain ⟨pre, q, post, -, -, -, ⟨-, hAwake⟩ | ⟨rfl, -⟩⟩ := loop_some hRun
  · exact fun _ => Or.inl hAwake
  · exact absurd rfl

/-! ## The calls -/

/-- A GPIO error is reported only while power save is not in force, and the wait is not given up
too early. -/
def Env.MandateOk (e : Env) (timeoutMs : Nat) : Prop :=
  e.hostPsAllowed = true →
    if configureHostWakeupGpio e ≠ 0 then ¬ e.InForce else e.wait.NotEarly timeoutMs e.beforeUs

/-- `wakeup_host` comes to the driver. -/
def Env.Driver (e : Env) : Prop := e.InForce ∧ e.handles = true

/-- The driver can be initialised again. -/
def Env.InitOk (e : Env) : Prop := e.Driver → e.deinit = true → e.initOk = true

/-- Without the handles, or when the host wakes up between the two looks at `power_save_on` and
the driver was not initialised, the return is late; else the wait is not given up too early. -/
def Env.InTime (e : Env) (timeoutMs : Nat) : Prop :=
  (e.InForce → e.handles = false → Late timeoutMs e.beforeUs) ∧
    (e.Driver → e.stillSaving = false → e.deinit = false → Late timeoutMs e.beforeUs) ∧
    (e.Driver → (e.deinit = true → e.initOk = true) → e.stillSaving = true →
      e.wait.NotEarly timeoutMs e.beforeUs)

theorem mandate_lawful_iff (e : Env) (timeoutMs : Nat) :
    (∀ r, wakeupHostMandate e timeoutMs = some r → r.Lawful e timeoutMs) ↔
      e.MandateOk timeoutMs := by
  unfold wakeupHostMandate Env.MandateOk
  cases hAllowed : e.hostPsAllowed with
  | false =>
    have hOff : ¬ e.InForce := fun hForce => absurd (hAllowed.symm.trans hForce.1) (by decide)
    simp only [if_true, Option.some.injEq, forall_eq', Bool.false_eq_true, false_imp_iff, iff_true]
    exact ⟨fun _ => Or.inr hOff, fun hZero => absurd hZero (show (1 : Int) ≠ 0 by decide)⟩
  | true =>
    rw [forall_prop_of_true rfl, if_neg (by decide)]
    split
    · rename_i hGpio
      simp only [Option.some.injEq, forall_eq']
      refine ⟨fun hLaw => ?_, fun hOff => ⟨fun _ => Or.inr hOff, fun hZero => absurd hZero hGpio⟩⟩
      exact (hLaw.truthful hGpio).resolve_left (show ¬ false = true by decide)
    · exact trigger_lawful_iff e timeoutMs e.beforeUs

/-- Every way through `wakeup_host`. -/
theorem wakeupHost_cases (e : Env) (timeoutMs : Nat) :
    (¬ e.InForce ∧ ∃ r, wakeupHost e timeoutMs = some r ∧ r.ret = 1) ∨
    (e.InForce ∧ e.handles = false ∧ wakeupHost e timeoutMs = some ⟨0, false, e.beforeUs⟩) ∨
    (e.Driver ∧ e.deinit = true ∧ e.initOk = false ∧
      wakeupHost e timeoutMs = some ⟨-1, false, e.beforeUs⟩) ∨
    (e.Driver ∧ (e.deinit = true → e.initOk = true) ∧ e.stillSaving = true ∧
      wakeupHost e timeoutMs =
        (triggerHostWakeup e.wait timeoutMs).map (Result.after e.beforeUs)) ∨
    (e.Driver ∧ (e.deinit = true → e.initOk = true) ∧ e.stillSaving = false ∧
      wakeupHost e timeoutMs = some ⟨if e.deinit then 1 else 0, true, e.beforeUs⟩) := by
  by_cases hForce : e.InForce
  · obtain ⟨hAllowed, hEnable, hSaving⟩ := hForce
    have hEq : wakeupHost e timeoutMs =
        if e.handles = false then some ⟨0, false, e.beforeUs⟩
        else if e.deinit && !e.initOk then some ⟨-1, false, e.beforeUs⟩
        else if e.stillSaving then
          (triggerHostWakeup e.wait timeoutMs).map (Result.after e.beforeUs)
        else some ⟨if e.deinit then 1 else 0, true, e.beforeUs⟩ := by
      simp only [wakeupHost, hAllowed, hEnable, hSaving, Bool.true_eq_false, if_false]
    rw [hEq]
    cases hHandles : e.handles with
    | false => exact Or.inr (Or.inl ⟨⟨hAllowed, hEnable, hSaving⟩, rfl, rfl⟩)
    | true =>
      have hDriver : e.Driver := ⟨⟨hAllowed, hEnable, hSaving⟩, hHandles⟩
      rw [if_neg (by decide)]
      split
      · rename_i hInit
        rw [Bool.and_eq_true, Bool.not_eq_true'] at hInit
        exact Or.inr (Or.inr (Or.inl ⟨hDriver, hInit.1, hInit.2, rfl⟩))
      · rename_i hInit
        have hOk : e.deinit = true → e.initOk = true := by simpa using hInit
        cases hStill : e.stillSaving with
        | true => exact Or.inr (Or.inr (Or.inr (Or.inl ⟨hDriver, hOk, rfl, if_pos rfl⟩)))
        | false =>
          exact Or.inr (Or.inr (Or.inr (Or.inr ⟨hDriver, hOk, rfl, if_neg (by decide)⟩)))
  · refine Or.inl ⟨hForce, ?_⟩
    unfold wakeupHost
    split
    · exact ⟨_, rfl, rfl⟩
    · rename_i hAllowed
      split
      · exact ⟨_, rfl, rfl⟩
      · rename_i hSaving
        split
        · exact ⟨_, rfl, rfl⟩
        · rename_i hEnable
          exact absurd ⟨Bool.of_not_eq_false hAllowed, Bool.of_not_eq_false hEnable,
            Bool.of_not_eq_false hSaving⟩ hForce

theorem wakeupHost_lawful_iff (e : Env) (timeoutMs : Nat) :
    (∀ r, wakeupHost e timeoutMs = some r → r.Lawful e timeoutMs) ↔
      e.InitOk ∧ e.InTime timeoutMs := by
  rcases wakeupHost_cases e timeoutMs with ⟨hOff, w, hEq, hRet⟩ | ⟨hForce, hHandles, hEq⟩ |
    ⟨hDriver, hDeinit, hInit, hEq⟩ | ⟨hDriver, hOk, hStill, hEq⟩ | ⟨hDriver, hOk, hStill, hEq⟩
  · refine ⟨fun _ => ⟨fun h => absurd h.1 hOff, fun h => absurd h hOff, fun h => absurd h.1 hOff,
      fun h => absurd h.1 hOff⟩, fun _ r hRes => ?_⟩
    cases hEq.symm.trans hRes
    exact ⟨fun _ => Or.inr hOff, fun hZero => absurd (hRet.symm.trans hZero) (by decide)⟩
  · have hNone : ¬ e.Driver := fun h => absurd (hHandles.symm.trans h.2) (by decide)
    rw [hEq]
    simp only [Option.some.injEq, forall_eq']
    refine ⟨fun hLaw => ⟨fun h => absurd h hNone, fun _ _ => hLaw.patient rfl,
      fun h => absurd h hNone, fun h => absurd h hNone⟩, fun hTime => ⟨absurd rfl, fun _ => ?_⟩⟩
    exact hTime.2.1 hForce hHandles
  · rw [hEq]
    simp only [Option.some.injEq, forall_eq']
    refine ⟨fun hLaw => ?_, fun hTime => ?_⟩
    · rcases hLaw.truthful (show (-1 : Int) ≠ 0 by decide) with hAwake | hOff
      · cases hAwake
      · exact absurd hDriver.1 hOff
    · have hTrue := hTime.1 hDriver hDeinit
      rw [hInit] at hTrue
      cases hTrue
  · rw [hEq, trigger_lawful_iff]
    have hTrue : e.handles ≠ false := by simp [hDriver.2]
    refine ⟨fun hNot => ⟨fun _ => hOk, fun _ h => absurd h hTrue, fun _ h => ?_,
      fun _ _ _ => hNot⟩, fun hTime => hTime.2.2.2 hDriver hOk hStill⟩
    exact absurd (hStill.symm.trans h) (by decide)
  · have hTrue : e.handles ≠ false := by simp [hDriver.2]
    rw [hEq]
    simp only [Option.some.injEq, forall_eq']
    refine ⟨fun hLaw => ⟨fun _ => hOk, fun _ h => absurd h hTrue, fun _ _ hDeinit => ?_,
      fun _ _ h => absurd (h.symm.trans hStill) (by decide)⟩, fun hTime => ?_⟩
    · exact hLaw.patient (if_neg (by simp [hDeinit]))
    · refine ⟨fun _ => Or.inl rfl, fun hZero => hTime.2.2.1 hDriver hStill ?_⟩
      cases hDeinit : e.deinit with
      | false => rfl
      | true => simp [hDeinit] at hZero

/-- `wakeup_host` tells the truth exactly if the driver comes back. -/
theorem wakeupHost_truthful (e : Env) (timeoutMs : Nat) (hInit : e.InitOk)
    (hRes : wakeupHost e timeoutMs = some r) : r.Truthful e := by
  rcases wakeupHost_cases e timeoutMs with ⟨hOff, w, hEq, hRet⟩ | ⟨hForce, hHandles, hEq⟩ |
    ⟨hDriver, hDeinit, hNo, hEq⟩ | ⟨hDriver, hOk, hStill, hEq⟩ | ⟨hDriver, hOk, hStill, hEq⟩
  · exact fun _ => Or.inr hOff
  · cases hEq.symm.trans hRes
    exact absurd rfl
  · rw [hInit hDriver hDeinit] at hNo
    cases hNo
  · rw [hEq] at hRes
    exact trigger_truthful hRes
  · cases hEq.symm.trans hRes
    exact fun _ => Or.inl rfl

/-- With an open data path a packet that carries something wakes the host up, and the driver
comes back. -/
def Env.SendOk (e : Env) (datapath ops : Bool) (p : Packet) : Prop :=
  datapath = true → ops = true → isHostPowerSaving e = true → p.Carries →
    isHostWakeupNeeded p = true ∧ e.InitOk

theorem send_lawful_iff (e : Env) (datapath ops : Bool) (p : Packet) :
    (∀ o, processTxPkt e datapath ops p = some o → o.Lawful e p) ↔
      e.SendOk datapath ops p := by
  unfold processTxPkt Env.SendOk
  cases datapath with
  | false =>
    simp only [if_true, Option.some.injEq, forall_eq', Bool.false_eq_true, false_imp_iff, iff_true]
    exact fun _ hWritten => absurd hWritten (by decide)
  | true =>
    cases ops with
    | false =>
      simp only [Bool.true_eq_false, if_false, if_true, Option.some.injEq, forall_eq',
        Bool.false_eq_true, false_imp_iff, forall_true_left, iff_true]
      exact fun _ hWritten => absurd hWritten (by decide)
    | true =>
      simp only [Bool.true_eq_false, if_false, forall_true_left]
      split
      · rename_i hAsk
        rw [Bool.and_eq_true] at hAsk
        refine ⟨fun hAll _ hCarries => ⟨hAsk.2, fun hDriver hDeinit => ?_⟩, fun hOk o hRes => ?_⟩
        · by_contra hNo
          have hEq : wakeupHost e portMaxDelay = some ⟨-1, false, e.beforeUs⟩ := by
            have hInit := Bool.of_not_eq_true hNo
            simp [wakeupHost, hDriver.1.1, hDriver.1.2.1, hDriver.1.2.2, hDriver.2, hDeinit, hInit]
          obtain ⟨r, hR, -, hTrue⟩ :=
            hAll ⟨true, some ⟨-1, false, e.beforeUs⟩⟩ (by rw [hEq]; rfl) hAsk.1 rfl hCarries
          cases hR
          rcases hTrue (show (-1 : Int) ≠ 0 by decide) with hAwake | hOff
          · cases hAwake
          · exact hOff hDriver.1
        · obtain ⟨r, hWake, rfl⟩ := Option.map_eq_some_iff.mp hRes
          intro hSaving hWritten hCarries
          exact ⟨r, rfl, of_decide_eq_true hWritten,
            wakeupHost_truthful e portMaxDelay (hOk hSaving hCarries).2 hWake⟩
      · rename_i hAsk
        simp only [Option.some.injEq, forall_eq']
        refine ⟨fun hLaw hSaving hCarries => ?_, fun hOk hSaving _ hCarries => ?_⟩
        · obtain ⟨r, hR, -⟩ := hLaw hSaving rfl hCarries
          cases hR
        · exact absurd (by rw [hSaving, (hOk hSaving hCarries).1]; rfl) hAsk

/-- For every timeout and every behaviour of the host and the calls. -/
theorem wakeup_iff (e : Env) (timeoutMs : Nat) (datapath ops : Bool) (p : Packet) :
    ((∀ r, wakeupHostMandate e timeoutMs = some r → r.Lawful e timeoutMs) ↔
      e.MandateOk timeoutMs) ∧
    ((∀ r, wakeupHost e timeoutMs = some r → r.Lawful e timeoutMs) ↔
      e.InitOk ∧ e.InTime timeoutMs) ∧
    ((∀ o, processTxPkt e datapath ops p = some o → o.Lawful e p) ↔
      e.SendOk datapath ops p) :=
  ⟨mandate_lawful_iff e timeoutMs, wakeupHost_lawful_iff e timeoutMs,
    send_lawful_iff e datapath ops p⟩

/-- The host does not answer, and one round takes 200 milliseconds. -/
def asleep : Env :=
  { hostPsAllowed := true, enable := true, saving := true, stillSaving := true, gpioConfig := 0
    gpioPull := 0, handles := true, deinit := false, initOk := true, beforeUs := 0
    wait := ⟨0, [⟨200000, true, true, false⟩]⟩ }

/-- With a timeout of a second the wait is given up after 200 milliseconds. -/
theorem gives_up_early : wakeupHost asleep 1000 = some ⟨0, false, 200000⟩ ∧
    wakeupHostMandate asleep 1000 = some ⟨0, false, 200000⟩ ∧
    ¬ (∀ r, wakeupHost asleep 1000 = some r → r.Lawful asleep 1000) := by
  refine ⟨by decide, by decide, fun hAll => ?_⟩
  have hLate := (hAll ⟨0, false, 200000⟩ (by decide)).patient rfl
  exact absurd hLate.2 (by decide)

end EspHosted.Power.WakeupHost
