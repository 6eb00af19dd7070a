import Mathlib.Algebra.Order.Ring.Int
import Mathlib.Tactic.Ring

/-!
# Timeouts of the operating systems

`mutex_lock`, `queue_recv` and `sem_take` of the three ports wait for `timeout_ms` milliseconds,
and for ever if that is negative. Each port turns the time into what its system waits with: ticks
of FreeRTOS, which are rounded down; ticks of the JL system, which are rounded up, with 0 for
ever; and milliseconds or a point in time for Linux.

Only waits are looked at in which nothing that is awaited happens.

* `onTime_iff`: exactly when a wait ends with `H_ERR_TIMEOUT` and not before its time.
-/

namespace EspHosted.Osal.Timeout

/-! ## Model -/

inductive HErr
  | fail
  | errTimeout
  deriving DecidableEq

/-- How a wait of the system ends: after `n` units of which there are `rate` in a second, by a
signal, or not at all. -/
inductive Wait
  | expires (n rate : Nat)
  | interrupted (n rate : Nat)
  | forever

/-- `struct timespec`. -/
structure Timespec where
  sec : Nat
  nsec : Nat

def Timespec.nanos (ts : Timespec) : Nat := ts.sec * 1000000000 + ts.nsec

/-- The systems below the ports: FreeRTOS with `configTICK_RATE_HZ`, `xSemaphoreTake` and
`xQueueReceive`; the JL system with `OS_TICKS_PER_SEC`, `os_mutex_pend` and `os_sem_pend`; and
Linux with its clock. `lock`, `semWait` and `read` wait without a limit. -/
structure Os where
  tickRateHz : Nat
  portMaxDelay : Nat
  pdMsToTicks : Nat → Nat
  xSemaphoreTake : Nat → Wait
  xQueueReceive : Nat → Wait
  osTicksPerSec : Nat
  osMutexPend : Int → Wait
  osSemPend : Int → Wait
  clock : Timespec
  pthreadMutexTimedlock : Timespec → Wait
  semTimedwait : Timespec → Wait
  poll : Int → Wait
  lock : Wait
  semWait : Wait
  read : Wait

/-- How a call ends; `undefined` after an overflow of `int32_t`. -/
inductive Outcome
  | ok (n rate : Nat)
  | returns (e : HErr) (n rate : Nat)
  | forever
  | undefined

/-- The result for a wait that expired, and for one that was interrupted. -/
def Wait.outcome (expired interrupted : HErr) : Wait → Outcome
  | .expires n rate => .returns expired n rate
  | .interrupted n rate => .returns interrupted n rate
  | .forever => .forever

/-- The result where an interrupted wait counts as success. -/
def Wait.ignored : Wait → Outcome
  | .expires n rate | .interrupted n rate => .ok n rate
  | .forever => .forever

inductive Op
  | mutexLock
  | queueRecv
  | semTake

/-! ### ESP-IDF -/

/-- `timeout_to_ticks`. -/
def timeoutToTicks (os : Os) (timeoutMs : Int) : Nat :=
  if timeoutMs < 0 then os.portMaxDelay else os.pdMsToTicks timeoutMs.toNat

def espIdf (os : Os) (timeoutMs : Int) : Op → Outcome
  | .mutexLock | .semTake =>
    (os.xSemaphoreTake (timeoutToTicks os timeoutMs)).outcome .errTimeout .errTimeout
  | .queueRecv => (os.xQueueReceive (timeoutToTicks os timeoutMs)).outcome .errTimeout .errTimeout

/-! ### JL -/

def int32Max : Int := 2 ^ 31 - 1

/-- `jl_ms_to_ticks`; there is no value after an overflow. -/
def jlMsToTicks (os : Os) (timeoutMs : Int) : Option Int :=
  if timeoutMs < 0 then some 0
  else if timeoutMs = 0 then some 1
  else
    let product := timeoutMs * os.osTicksPerSec
    if int32Max < product + 999 then none else some ((product + 999) / 1000)

/-- The result of a wait that failed is `H_ERR_TIMEOUT` for one tick only. -/
def jlWait (os : Os) (timeoutMs : Int) (pend : Int → Wait) : Outcome :=
  match jlMsToTicks os timeoutMs with
  | none => .undefined
  | some ticks =>
    let e := if ticks = 1 then HErr.errTimeout else HErr.fail
    (pend ticks).outcome e e

/-- `jl_mutex_lock`, `jl_queue_recv`, `jl_sem_take`. -/
def jl (os : Os) (timeoutMs : Int) : Op → Outcome
  | .mutexLock => jlWait os timeoutMs os.osMutexPend
  | .queueRecv | .semTake => jlWait os timeoutMs os.osSemPend

/-! ### Linux -/

/-- The time at which `linux_mutex_lock` and `linux_sem_take` give up. -/
def deadline (os : Os) (timeoutMs : Nat) : Timespec :=
  let sec := os.clock.sec + timeoutMs / 1000
  let nsec := os.clock.nsec + timeoutMs % 1000 * 1000000
  if 1000000000 ≤ nsec then ⟨sec + 1, nsec - 1000000000⟩ else ⟨sec, nsec⟩

/-- `linux_mutex_lock`, `linux_queue_recv`, `linux_sem_take`. -/
def linux (os : Os) (timeoutMs : Int) : Op → Outcome
  | .mutexLock =>
    if timeoutMs < 0 then os.lock.ignored
    else (os.pthreadMutexTimedlock (deadline os timeoutMs.toNat)).outcome .errTimeout .errTimeout
  | .queueRecv =>
    if timeoutMs < 0 then os.read.outcome .fail .fail
    else (os.poll timeoutMs).outcome .errTimeout .fail
  | .semTake =>
    if timeoutMs < 0 then os.semWait.ignored
    else (os.semTimedwait (deadline os timeoutMs.toNat)).outcome .errTimeout .errTimeout

inductive Port
  | espIdf
  | linux
  | jl

def Port.call (os : Os) (timeoutMs : Int) (op : Op) : Port → Outcome
  | .espIdf => Timeout.espIdf os timeoutMs op
  | .linux => Timeout.linux os timeoutMs op
  | .jl => Timeout.jl os timeoutMs op

/-! ## The systems -/

/-- A wait that ends after `n` units, or before by a signal. -/
def interruptible (signal : Option Nat) (n rate : Nat) : Wait :=
  match signal with
  | some m => if m * rate < n * 1000000000 then .interrupted m 1000000000 else .expires n rate
  | none => .expires n rate

/-- A wait without a limit, or until a signal. -/
def unlimited (signal : Option Nat) : Wait :=
  match signal with
  | some m => .interrupted m 1000000000
  | none => .forever

/-- What the systems do while nothing happens that is awaited. A signal may come some nanoseconds
after the start of the wait; it does not end the wait for a mutex. -/
structure Documented (os : Os) (signal : Option Nat) : Prop where
  tickRateHz : 0 < os.tickRateHz ∧ os.tickRateHz ≤ 1000
  portMaxDelay : 2 ^ 31 ≤ os.portMaxDelay
  pdMsToTicks : ∀ ms, ms < 2 ^ 31 → os.pdMsToTicks ms = ms * os.tickRateHz / 1000
  xSemaphoreTake : ∀ n, os.xSemaphoreTake n =
    if n = os.portMaxDelay then .forever else .expires n os.tickRateHz
  xQueueReceive : ∀ n, os.xQueueReceive n =
    if n = os.portMaxDelay then .forever else .expires n os.tickRateHz
  osTicksPerSec : 0 < os.osTicksPerSec
  osMutexPend : ∀ n : Nat, os.osMutexPend n =
    if n = 0 then .forever else .expires n os.osTicksPerSec
  osSemPend : ∀ n : Nat, os.osSemPend n =
    if n = 0 then .forever else .expires n os.osTicksPerSec
  clock : os.clock.nsec < 1000000000
  pthreadMutexTimedlock : ∀ ts, os.pthreadMutexTimedlock ts =
    .expires (ts.nanos - os.clock.nanos) 1000000000
  semTimedwait : ∀ ts, os.semTimedwait ts =
    interruptible signal (ts.nanos - os.clock.nanos) 1000000000
  poll : ∀ ms : Nat, os.poll ms = interruptible signal ms 1000
  lock : os.lock = .forever
  semWait : os.semWait = unlimited signal
  read : os.read = unlimited signal

/-! ## On time -/

/-- A limited wait ends with `H_ERR_TIMEOUT` and not before its time, an unlimited one does not
end. -/
def Timely (timeoutMs : Int) : Outcome → Prop
  | .returns e n rate => 0 ≤ timeoutMs ∧ e = .errTimeout ∧ timeoutMs * rate ≤ n * 1000
  | .forever => timeoutMs < 0
  | .ok .. | .undefined => False

/-- The ticks of the JL port are at least 1 and not too few. -/
def TicksOk (os : Os) (timeoutMs : Int) : Prop :=
  ∃ ticks ∈ jlMsToTicks os timeoutMs, 1 ≤ ticks ∧ timeoutMs * os.osTicksPerSec ≤ ticks * 1000

/-- What is asked of a port. -/
def Port.Meets (os : Os) (timeoutMs : Int) (op : Op) (p : Port) : Prop :=
  Timely timeoutMs (p.call os timeoutMs op) ∧
    match p with
    | .jl => 0 ≤ timeoutMs → TicksOk os timeoutMs
    | .espIdf | .linux => True

/-- No signal comes before the end of the wait. -/
def Undisturbed (signal : Option Nat) (timeoutMs : Int) : Prop :=
  ∀ m ∈ signal, 0 ≤ timeoutMs ∧ timeoutMs * 1000000 ≤ m

/-- The ESP-IDF port: whole ticks. The JL port: no more than one tick. The Linux port: no
signal. -/
def Port.OnTime (os : Os) (signal : Option Nat) (timeoutMs : Int) (op : Op) : Port → Prop
  | .espIdf => timeoutMs < 0 ∨ timeoutMs * os.tickRateHz % 1000 = 0
  | .jl => timeoutMs < 0 ∨ timeoutMs * os.osTicksPerSec ≤ 1000
  | .linux =>
    match op with
    | .mutexLock => True
    | .queueRecv | .semTake => Undisturbed signal timeoutMs

variable {os : Os} {signal : Option Nat} {t : Int} {n : Nat} {op : Op}

/-- Ticks that are rounded down are enough exactly if nothing is rounded off. -/
theorem floor_enough_iff (n rate : Nat) :
    (n : Int) * rate ≤ (n * rate / 1000 : Nat) * 1000 ↔ (n : Int) * rate % 1000 = 0 := by
  omega

theorem timeoutToTicks_neg (h : t < 0) : timeoutToTicks os t = os.portMaxDelay := if_pos h

/-- The ticks of a limited wait, which are not those of an unlimited one. -/
theorem timeoutToTicks_nat (hDoc : Documented os signal) (hn : n < 2 ^ 31) :
    timeoutToTicks os n = n * os.tickRateHz / 1000 ∧ timeoutToTicks os n ≠ os.portMaxDelay := by
  have hTicks : timeoutToTicks os n = n * os.tickRateHz / 1000 := by
    rw [timeoutToTicks, if_neg (by omega), Int.toNat_natCast, hDoc.pdMsToTicks n hn]
  have hRate : n * os.tickRateHz ≤ n * 1000 := Nat.mul_le_mul_left n hDoc.tickRateHz.2
  have hMax := hDoc.portMaxDelay
  refine ⟨hTicks, ?_⟩
  rw [hTicks]
  omega

/-- A wait of FreeRTOS. -/
theorem espIdf_timely_iff (hDoc : Documented os signal) {wait : Nat → Wait}
    (hWait : ∀ n, wait n = if n = os.portMaxDelay then .forever else .expires n os.tickRateHz)
    (ht : t < 2 ^ 31) :
    Timely t ((wait (timeoutToTicks os t)).outcome .errTimeout .errTimeout) ↔
      t < 0 ∨ t * os.tickRateHz % 1000 = 0 := by
  rw [hWait]
  by_cases hNeg : t < 0
  · rw [timeoutToTicks_neg hNeg, if_pos rfl]
    exact ⟨fun _ => Or.inl hNeg, fun _ => hNeg⟩
  · lift t to Nat using Int.not_lt.mp hNeg
    obtain ⟨hTicks, hNe⟩ := timeoutToTicks_nat hDoc (n := t) (by omega)
    rw [if_neg hNe, hTicks]
    simp only [Wait.outcome, Timely, true_and, floor_enough_iff, hNeg, false_or,
      and_iff_right_iff_imp]
    exact fun _ => Int.natCast_nonneg t

theorem jlMsToTicks_neg (h : t < 0) : jlMsToTicks os t = some 0 := if_pos h

/-- One tick at least. Whether the product overflows or not, it is one tick only for a time of at
most one tick. -/
theorem jlMsToTicks_nat (hRate : 0 < os.osTicksPerSec) (n : Nat) :
    jlMsToTicks os n = none ∧ 1000 < n * os.osTicksPerSec ∨
    ∃ ticks : Nat, jlMsToTicks os n = some (ticks : Int) ∧ 1 ≤ ticks ∧
      n * os.osTicksPerSec ≤ ticks * 1000 ∧ (ticks = 1 ↔ n * os.osTicksPerSec ≤ 1000) := by
  unfold jlMsToTicks
  rw [if_neg (by omega)]
  split
  · rename_i hZero
    have hZero : n = 0 := by omega
    refine Or.inr ⟨1, rfl, Nat.le_refl 1, ?_, ?_⟩
    · rw [hZero]
      omega
    · rw [hZero]
      omega
  · rename_i hPos
    have hProduct : 0 < n * os.osTicksPerSec := Nat.mul_pos (by omega) hRate
    have hCast : ((n * os.osTicksPerSec : Nat) : Int) = n * os.osTicksPerSec := by push_cast; rfl
    simp only
    split
    · rename_i hOver
      rw [int32Max] at hOver
      exact Or.inl ⟨rfl, by omega⟩
    · refine Or.inr ⟨(n * os.osTicksPerSec + 999) / 1000, ?_, by omega, by omega, by omega⟩
      push_cast
      rfl

/-- A wait of the JL system. -/
theorem jlWait_timely_iff (hRate : 0 < os.osTicksPerSec) {pend : Int → Wait}
    (hPend : ∀ n : Nat, pend n = if n = 0 then .forever else .expires n os.osTicksPerSec)
    (t : Int) : Timely t (jlWait os t pend) ↔ t < 0 ∨ t * os.osTicksPerSec ≤ 1000 := by
  unfold jlWait
  by_cases hNeg : t < 0
  · rw [jlMsToTicks_neg hNeg]
    simp only [show pend 0 = .forever from hPend 0]
    exact ⟨fun _ => Or.inl hNeg, fun _ => hNeg⟩
  · lift t to Nat using Int.not_lt.mp hNeg
    have hCast : ((t * os.osTicksPerSec : Nat) : Int) = t * os.osTicksPerSec := by push_cast; rfl
    rcases jlMsToTicks_nat hRate t with ⟨hOver, hLong⟩ | ⟨ticks, hTicks, hOne, hEnough, hSingle⟩
    · rw [hOver]
      simp only [Timely, hNeg, false_or, false_iff]
      omega
    · rw [hTicks]
      simp only [hPend, show ¬ ticks = 0 by omega, if_false, Wait.outcome, Timely]
      constructor
      · rintro ⟨-, hErr, -⟩
        split at hErr
        · omega
        · cases hErr
      · intro hShort
        have hShort : t * os.osTicksPerSec ≤ 1000 := by omega
        rw [if_pos (by exact_mod_cast hSingle.mpr hShort)]
        exact ⟨Int.natCast_nonneg t, rfl, by exact_mod_cast hEnough⟩

/-- The ticks are right where they are computed at all. -/
theorem ticksOk_of_short (hRate : 0 < os.osTicksPerSec) (hPos : 0 ≤ t)
    (hShort : t * os.osTicksPerSec ≤ 1000) : TicksOk os t := by
  lift t to Nat using hPos
  have hCast : ((t * os.osTicksPerSec : Nat) : Int) = t * os.osTicksPerSec := by push_cast; rfl
  rcases jlMsToTicks_nat hRate t with ⟨-, hLong⟩ | ⟨ticks, hTicks, hOne, hEnough, -⟩
  · omega
  · exact ⟨ticks, hTicks, by omega, by omega⟩

/-- The deadline is the time to wait behind the clock. -/
theorem deadline_nanos (hClock : os.clock.nsec < 1000000000) (n : Nat) :
    (deadline os n).nanos - os.clock.nanos = n * 1000000 := by
  simp only [deadline]
  split
  · simp only [Timespec.nanos]
    omega
  · simp only [Timespec.nanos]
    omega

theorem undisturbed_neg (h : t < 0) : Undisturbed signal t ↔ signal = none := by
  unfold Undisturbed
  cases signal with
  | none => exact ⟨fun _ => rfl, fun _ => nofun⟩
  | some m => exact ⟨fun hAll => absurd (hAll m rfl).1 (by omega), nofun⟩

/-- A limited wait of `n` milliseconds that a signal can end. -/
theorem interruptible_timely_iff {wait : Wait} {units rate : Nat} (hRate : 0 < rate)
    (hUnits : units * 1000 = n * rate) (hWait : wait = interruptible signal units rate)
    (e : HErr) : Timely n (wait.outcome .errTimeout e) ↔ Undisturbed signal n := by
  subst hWait
  have hEnough : (n : Int) * rate ≤ units * 1000 := by exact_mod_cast hUnits.ge
  unfold interruptible Undisturbed
  cases signal with
  | none => exact ⟨fun _ => nofun, fun _ => ⟨Int.natCast_nonneg n, rfl, hEnough⟩⟩
  | some m =>
    simp only [Option.mem_some_iff, forall_eq']
    have hEarly : m * rate < units * 1000000000 ↔ m < n * 1000000 := by
      calc m * rate < units * 1000000000 ↔ m * rate < n * 1000000 * rate := by
            rw [show units * 1000000000 = units * 1000 * 1000000 by ring, hUnits,
              show n * rate * 1000000 = n * 1000000 * rate by ring]
        _ ↔ m < n * 1000000 := Nat.mul_lt_mul_right hRate
    split
    · rename_i hLt
      simp only [Wait.outcome, Timely]
      rw [hEarly] at hLt
      omega
    · rename_i hGe
      rw [hEarly] at hGe
      refine ⟨fun _ => by omega, fun _ => ⟨Int.natCast_nonneg n, rfl, hEnough⟩⟩

/-- An unlimited wait that a signal can end. -/
theorem unlimited_timely_iff (h : t < 0) {wait : Wait} (hWait : wait = unlimited signal)
    (e : HErr) :
    (Timely t (wait.outcome e e) ↔ Undisturbed signal t) ∧
      (Timely t wait.ignored ↔ Undisturbed signal t) := by
  subst hWait
  rw [undisturbed_neg h]
  cases signal with
  | none => exact ⟨⟨fun _ => rfl, fun _ => h⟩, ⟨fun _ => rfl, fun _ => h⟩⟩
  | some m =>
    refine ⟨⟨fun hTimely => absurd hTimely.1 (by omega), nofun⟩,
      ⟨fun hTimely => hTimely.elim, nofun⟩⟩

theorem linux_timely_iff (hDoc : Documented os signal) (t : Int) (op : Op) :
    Timely t (linux os t op) ↔ Port.OnTime os signal t op .linux := by
  cases op with
  | mutexLock =>
    simp only [linux, Port.OnTime, iff_true]
    split
    · rename_i hNeg
      rw [hDoc.lock]
      exact hNeg
    · rename_i hPos
      lift t to Nat using Int.not_lt.mp hPos
      rw [hDoc.pthreadMutexTimedlock, Int.toNat_natCast, deadline_nanos hDoc.clock]
      exact ⟨Int.natCast_nonneg t, rfl, by push_cast; omega⟩
  | queueRecv =>
    simp only [linux, Port.OnTime]
    split
    · rename_i hNeg
      exact (unlimited_timely_iff hNeg hDoc.read .fail).1
    · rename_i hPos
      lift t to Nat using Int.not_lt.mp hPos
      exact interruptible_timely_iff (by omega) rfl (hDoc.poll t) .fail
  | semTake =>
    simp only [linux, Port.OnTime]
    split
    · rename_i hNeg
      exact (unlimited_timely_iff hNeg hDoc.semWait .fail).2
    · rename_i hPos
      lift t to Nat using Int.not_lt.mp hPos
      refine interruptible_timely_iff (by omega) ?_ (hDoc.semTimedwait _) .errTimeout
      rw [Int.toNat_natCast, deadline_nanos hDoc.clock]
      omega

/-- For every time of an `int32_t`, every port and every operation. -/
theorem onTime_iff (hDoc : Documented os signal) (ht : t < 2 ^ 31) (op : Op) (p : Port) :
    p.Meets os t op ↔ p.OnTime os signal t op := by
  cases p with
  | espIdf =>
    simp only [Port.Meets, and_true, Port.call, Port.OnTime]
    cases op with
    | mutexLock => exact espIdf_timely_iff hDoc hDoc.xSemaphoreTake ht
    | queueRecv => exact espIdf_timely_iff hDoc hDoc.xQueueReceive ht
    | semTake => exact espIdf_timely_iff hDoc hDoc.xSemaphoreTake ht
  | linux =>
    simp only [Port.Meets, and_true, Port.call]
    exact linux_timely_iff hDoc t op
  | jl =>
    have hTimely : Timely t (jl os t op) ↔ t < 0 ∨ t * os.osTicksPerSec ≤ 1000 := by
      cases op with
      | mutexLock => exact jlWait_timely_iff hDoc.osTicksPerSec hDoc.osMutexPend t
      | queueRecv => exact jlWait_timely_iff hDoc.osTicksPerSec hDoc.osSemPend t
      | semTake => exact jlWait_timely_iff hDoc.osTicksPerSec hDoc.osSemPend t
    simp only [Port.Meets, Port.call, Port.OnTime, hTimely, and_iff_left_iff_imp]
    intro hShort hPos
    exact ticksOk_of_short hDoc.osTicksPerSec hPos (hShort.resolve_left (by omega))

/-- 100 ticks in a second, in each of the systems. -/
def hundredTicks : Os :=
  { tickRateHz := 100
    portMaxDelay := 2 ^ 32 - 1
    pdMsToTicks := fun ms => ms * 100 / 1000
    xSemaphoreTake := fun n => if n = 2 ^ 32 - 1 then .forever else .expires n 100
    xQueueReceive := fun n => if n = 2 ^ 32 - 1 then .forever else .expires n 100
    osTicksPerSec := 100
    osMutexPend := fun n => if n = 0 then .forever else .expires n.toNat 100
    osSemPend := fun n => if n = 0 then .forever else .expires n.toNat 100
    clock := ⟨0, 0⟩
    pthreadMutexTimedlock := fun ts => .expires ts.nanos 1000000000
    semTimedwait := fun ts => .expires ts.nanos 1000000000
    poll := fun ms => .expires ms.toNat 1000
    lock := .forever
    semWait := .forever
    read := .forever }

theorem hundredTicks_documented : Documented hundredTicks none :=
  { tickRateHz := by decide
    portMaxDelay := by decide
    pdMsToTicks := fun _ _ => rfl
    xSemaphoreTake := fun _ => rfl
    xQueueReceive := fun _ => rfl
    osTicksPerSec := by decide
    osMutexPend := fun n => by simp [hundredTicks]
    osSemPend := fun n => by simp [hundredTicks]
    clock := by decide
    pthreadMutexTimedlock := fun _ => rfl
    semTimedwait := fun _ => rfl
    poll := fun _ => rfl
    lock := rfl
    semWait := rfl
    read := rfl }

/-- Ten milliseconds are one tick. -/
theorem onTime_ten : Port.jl.Meets hundredTicks 10 .semTake :=
  (onTime_iff hundredTicks_documented (by decide) .semTake .jl).mpr (Or.inr (by decide))

/-- After two ticks the JL port does not answer with `H_ERR_TIMEOUT`. -/
theorem twenty_not_timely : Documented hundredTicks none ∧
    Port.jl.call hundredTicks 20 .semTake = .returns .fail 2 100 ∧
    ¬ Port.jl.Meets hundredTicks 20 .semTake := by
  have hTicks : jlMsToTicks hundredTicks 20 = some 2 := by decide
  have hFail : Port.jl.call hundredTicks 20 .semTake = .returns .fail 2 100 := by
    simp only [Port.call, jl, jlWait, hTicks]
    rfl
  refine ⟨hundredTicks_documented, hFail, fun h => ?_⟩
  have hTimely := h.1
  rw [hFail] at hTimely
  exact HErr.noConfusion hTimely.2.1

end EspHosted.Osal.Timeout
