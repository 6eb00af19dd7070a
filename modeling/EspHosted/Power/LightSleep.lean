import EspHosted.Lib.CountedLocks
import EspHosted.Lib.Machine

/-!
# The lock that holds off light sleep

`slave_light_sleep_init` creates a lock and takes it, `slave_light_sleep_start` gives it back so
that the co-processor can sleep, and `slave_light_sleep_stop` takes it again.
`slave_light_sleep_deinit` takes the lock if it is free, and then deletes it, which the driver
refuses as long as the lock is held. The result is ignored and the handle is cleared.

* `shape_step`: the calls that keep the only lock the one of the handle;
* `light_sleep_lock`: along runs whose calls satisfy `Deletes` the flag and the handle are exact,
  and a next call meets its contract exactly if it satisfies `Deletes` too.
-/

namespace EspHosted.Power.LightSleep

open Machine CountedLocks

/-! ## Model -/

def espOk : Int := 0
def espErrInvalidState : Int := 0x103

/-- What the functions of the driver answer during a call, and the handle of a new lock. -/
structure Driver where
  create : Int
  configure : Int
  acquire : Int
  release : Int
  delete : Int
  handle : Nat

structure State where
  pmLock : Option Nat
  pmLockAcquired : Bool
  pmConfigured : Bool
  /-- The locks of this module that exist in the driver. -/
  locks : Locks Nat

def boot : State := ⟨none, false, false, ∅⟩

/-- The driver can fail, and it refuses what a lock does not allow. -/
def perform (answer : Int) (done : Option (Locks Nat)) : Except Int (Locks Nat) :=
  if answer = espOk then done.elim (.error espErrInvalidState) .ok else .error answer

def espPmLockAcquire (d : Driver) (lock : Nat) (locks : Locks Nat) : Except Int (Locks Nat) :=
  perform d.acquire (acquire lock locks)

def espPmLockRelease (d : Driver) (lock : Nat) (locks : Locks Nat) : Except Int (Locks Nat) :=
  perform d.release (release lock locks)

/-- The callers ignore the result. -/
def espPmLockDelete (d : Driver) (lock : Nat) (locks : Locks Nat) : Locks Nat :=
  match perform d.delete (delete lock locks) with
  | .ok locks' => locks'
  | .error _ => locks

def slaveLightSleepStart (d : Driver) (s : State) : Int × State :=
  match s.pmConfigured, s.pmLock with
  | true, some lock =>
    if s.pmLockAcquired = false then (espOk, s)
    else
      match espPmLockRelease d lock s.locks with
      | .ok locks => (espOk, { s with locks := locks, pmLockAcquired := false })
      | .error ret => (ret, s)
  | _, _ => (espErrInvalidState, s)

def slaveLightSleepStop (d : Driver) (s : State) : Int × State :=
  match s.pmConfigured, s.pmLock with
  | true, some lock =>
    if s.pmLockAcquired then (espOk, s)
    else
      match espPmLockAcquire d lock s.locks with
      | .ok locks => (espOk, { s with locks := locks, pmLockAcquired := true })
      | .error ret => (ret, s)
  | _, _ => (espErrInvalidState, s)

def slaveLightSleepInit (d : Driver) (s : State) : Int × State :=
  if s.pmConfigured then (espOk, s)
  else if d.create ≠ espOk then (d.create, s)
  else
    let locks := create d.handle s.locks
    if d.configure ≠ espOk then
      (d.configure, { s with pmLock := none, locks := espPmLockDelete d d.handle locks })
    else
      -- the result of the stop is only logged
      (espOk, (slaveLightSleepStop d
        { s with pmLock := some d.handle, pmConfigured := true, locks := locks }).2)

/-- The lock is taken before it is deleted. -/
def acquireBeforeDelete (d : Driver) (lock : Nat) (s : State) : State :=
  if s.pmLockAcquired then s
  else
    match espPmLockAcquire d lock s.locks with
    | .ok locks => { s with locks := locks, pmLockAcquired := true }
    | .error _ => s

def slaveLightSleepDeinit (d : Driver) (s : State) : Int × State :=
  if s.pmConfigured = false then (espOk, s)
  else
    match s.pmLock with
    | none => (espOk, { s with pmLockAcquired := false, pmConfigured := false })
    | some lock =>
      (espOk, ⟨none, false, false,
        espPmLockDelete d lock (acquireBeforeDelete d lock s).locks⟩)

inductive Call
  | init
  | start
  | stop
  | deinit
  deriving DecidableEq

structure Action where
  call : Call
  driver : Driver

def Action.perform (a : Action) (s : State) : Int × State :=
  match a.call with
  | .init => slaveLightSleepInit a.driver s
  | .start => slaveLightSleepStart a.driver s
  | .stop => slaveLightSleepStop a.driver s
  | .deinit => slaveLightSleepDeinit a.driver s

/-- A new lock does not get the handle of one that exists. -/
def step (s : State) (a : Action) : Option State :=
  if a.driver.handle ∈ s.locks then none else some (a.perform s).2

/-! ## The contract -/

/-- The flag says whether the lock of the handle is held, and there is no other lock. -/
structure Kept (s : State) : Prop where
  acquired : s.pmLockAcquired = true ↔
    ∃ lock held, s.pmLock = some lock ∧ s.locks.lookup lock = some held ∧ held ≠ 0
  once : ∀ lock held, s.locks.lookup lock = some held → held ≤ 1
  named : ∀ lock, lock ∈ s.locks ↔ s.pmLock = some lock

/-- A call leaves the lock in order, no lock after the end, and none held after a start. -/
structure Meets (s : State) (a : Action) : Prop where
  kept : Kept (a.perform s).2
  deinit : a.call = .deinit → ∀ lock, lock ∉ (a.perform s).2.locks
  start : a.call = .start → (a.perform s).1 = espOk →
    ∀ lock held, (a.perform s).2.locks.lookup lock = some held → held = 0

/-- The driver deletes the lock that a call gives up. It refuses to if the lock was held before,
or could be taken. -/
def Deletes (s : State) (a : Action) : Prop :=
  match a.call with
  | .init => s.pmConfigured = true ∨ a.driver.create ≠ espOk ∨ a.driver.configure = espOk ∨
      a.driver.delete = espOk
  | .deinit => s.pmConfigured = false ∨
      (s.pmLockAcquired = false ∧ a.driver.acquire ≠ espOk ∧ a.driver.delete = espOk)
  | .start | .stop => True

instance (s : State) (a : Action) : Decidable (Deletes s a) := by
  unfold Deletes
  cases a.call <;> infer_instance

/-! ## The driver -/

section Driver

variable {d : Driver} {lock held : Nat} {acquired : Bool} {locks : Locks Nat}

theorem perform_some (answer : Int) (locks' : Locks Nat) :
    perform answer (some locks') = if answer = espOk then .ok locks' else .error answer := rfl

theorem perform_error {answer : Int} (hFail : answer ≠ espOk) (done : Option (Locks Nat)) :
    perform answer done = .error answer := by
  simp only [perform, hFail, if_false]

/-- A lock goes only if it is free and the driver does not fail. -/
theorem espPmLockDelete_only (hOnly : Only (some (lock, held)) locks) :
    Only (if d.delete = espOk ∧ held = 0 then none else some (lock, held))
      (espPmLockDelete d lock locks) := by
  by_cases hOk : d.delete = espOk
  · cases held with
    | zero =>
      obtain ⟨locks', hDelete, hNone⟩ := hOnly.delete
      simp only [espPmLockDelete, hDelete, perform_some, hOk, if_true, and_self]
      exact hNone
    | succ n =>
      simp only [espPmLockDelete, hOnly.delete_held, perform, hOk, if_true, Option.elim_none,
        Nat.succ_ne_zero, and_false, if_false]
      exact hOnly
  · simp only [espPmLockDelete, perform_error hOk, hOk, false_and, if_false]
    exact hOnly

theorem acquireBeforeDelete_only (hOnly : Only (some (lock, acquired.toNat)) locks) :
    Only (some (lock, if acquired = false ∧ d.acquire ≠ espOk then 0 else 1))
      (acquireBeforeDelete d lock ⟨some lock, acquired, true, locks⟩).locks := by
  cases acquired with
  | true => exact hOnly
  | false =>
    by_cases hOk : d.acquire = espOk
    · obtain ⟨locks', hAcquire, hHeld⟩ := hOnly.acquire
      simp only [acquireBeforeDelete, espPmLockAcquire, hAcquire, perform_some, hOk, if_true,
        Bool.false_eq_true, if_false, ne_eq, not_true_eq_false, and_false]
      exact hHeld
    · simp only [acquireBeforeDelete, espPmLockAcquire, perform_error hOk, hOk,
        Bool.false_eq_true, if_false, ne_eq, not_false_eq_true, and_self, if_true]
      exact hOnly

end Driver

/-! ## Calls -/

/-- Either nothing was set up, or the only lock is the one of the handle and is held as the flag
says. -/
inductive Shape : State → Prop
  | idle {locks : Locks Nat} : Only none locks → Shape ⟨none, false, false, locks⟩
  | ready {lock : Nat} {acquired : Bool} {locks : Locks Nat} :
      Only (some (lock, acquired.toNat)) locks → Shape ⟨some lock, acquired, true, locks⟩

theorem boot_shape : Shape boot := .idle .empty

section Calls

variable {d : Driver} {lock held : Nat} {acquired : Bool} {locks : Locks Nat}
  {o : Option (Nat × Nat)} {s s' : State}

theorem mem_iff_of_only (hOnly : Only o locks) {lock : Nat} :
    lock ∈ locks ↔ ∃ held, o = some (lock, held) := by
  rw [← AList.lookup_isSome, Option.isSome_iff_exists]
  exact exists_congr fun held => hOnly lock held

/-- Without a handle there must not be a lock. -/
theorem kept_idle_iff (hOnly : Only o locks) : Kept ⟨none, false, false, locks⟩ ↔ o = none := by
  constructor
  · intro hKept
    cases o with
    | none => rfl
    | some p =>
      have hMem : p.1 ∈ locks := (mem_iff_of_only hOnly).mpr ⟨p.2, rfl⟩
      have hNamed := (hKept.named p.1).mp hMem
      cases hNamed
  · rintro rfl
    refine ⟨by simp, fun lock held hLookup => ?_, fun lock => ?_⟩
    · rw [show locks.lookup lock = none from hOnly.lookup_none lock] at hLookup
      cases hLookup
    · rw [show lock ∈ (State.mk none false false locks).locks ↔ _ from mem_iff_of_only hOnly]
      simp

theorem Shape.kept (hShape : Shape s) : Kept s := by
  cases hShape with
  | idle hOnly => exact (kept_idle_iff hOnly).mpr rfl
  | @ready lock acquired locks hOnly =>
    refine ⟨?_, fun lock' held hLookup => ?_, fun lock' => ?_⟩
    · constructor
      · rintro rfl
        exact ⟨lock, 1, rfl, hOnly.lookup, Nat.one_ne_zero⟩
      · rintro ⟨lock', held, hLock, hLookup, hHeld⟩
        have hSame := (hOnly lock' held).mp hLookup
        cases acquired with
        | true => rfl
        | false =>
          cases hSame
          exact absurd rfl hHeld
    · have hSame := (hOnly lock' held).mp hLookup
      cases hSame
      exact acquired.toNat_le
    · rw [show lock' ∈ (State.mk (some lock) acquired true locks).locks ↔ _ from
        mem_iff_of_only hOnly]
      simp [eq_comm]

/-- A start that succeeds leaves the lock free. -/
theorem start_shape (hOnly : Only (some (lock, acquired.toNat)) locks) :
    ∃ acquired' locks', (slaveLightSleepStart d ⟨some lock, acquired, true, locks⟩).2 =
        ⟨some lock, acquired', true, locks'⟩ ∧ Only (some (lock, acquired'.toNat)) locks' ∧
      ((slaveLightSleepStart d ⟨some lock, acquired, true, locks⟩).1 = espOk →
        acquired' = false) := by
  cases acquired with
  | false => exact ⟨false, locks, rfl, hOnly, fun _ => rfl⟩
  | true =>
    by_cases hOk : d.release = espOk
    · obtain ⟨locks', hRelease, hFree⟩ := hOnly.release
      refine ⟨false, locks', ?_, hFree, fun _ => rfl⟩
      simp only [slaveLightSleepStart, espPmLockRelease, hRelease, perform_some, hOk, if_true,
        Bool.true_eq_false, if_false]
    · refine ⟨true, locks, ?_, hOnly, fun hRet => absurd ?_ hOk⟩
      · simp only [slaveLightSleepStart, espPmLockRelease, perform_error hOk,
          Bool.true_eq_false, if_false]
      · simpa only [slaveLightSleepStart, espPmLockRelease, perform_error hOk,
          Bool.true_eq_false, if_false] using hRet

theorem stop_shape (hOnly : Only (some (lock, acquired.toNat)) locks) :
    Shape (slaveLightSleepStop d ⟨some lock, acquired, true, locks⟩).2 := by
  cases acquired with
  | true => exact .ready hOnly
  | false =>
    by_cases hOk : d.acquire = espOk
    · obtain ⟨locks', hAcquire, hHeld⟩ := hOnly.acquire
      simp only [slaveLightSleepStop, espPmLockAcquire, hAcquire, perform_some, hOk, if_true,
        Bool.false_eq_true, if_false]
      exact @Shape.ready _ true _ hHeld
    · simp only [slaveLightSleepStop, espPmLockAcquire, perform_error hOk, Bool.false_eq_true,
        if_false]
      exact .ready hOnly

/-- What an initialisation leaves: a lock that could not be deleted, or the shape. -/
theorem init_idle (hOnly : Only none locks) :
    (Deletes ⟨none, false, false, locks⟩ ⟨.init, d⟩ →
      Shape (slaveLightSleepInit d ⟨none, false, false, locks⟩).2) ∧
    (Kept (slaveLightSleepInit d ⟨none, false, false, locks⟩).2 →
      Deletes ⟨none, false, false, locks⟩ ⟨.init, d⟩) := by
  by_cases hCreate : d.create = espOk
  · by_cases hConfigure : d.configure = espOk
    · refine ⟨fun _ => ?_, fun _ => .inr (.inr (.inl hConfigure))⟩
      simp only [slaveLightSleepInit, hCreate, hConfigure, Bool.false_eq_true, if_false, ne_eq,
        not_true_eq_false]
      exact @stop_shape d _ false _ (hOnly.create d.handle)
    · have hLeft := espPmLockDelete_only (d := d) (hOnly.create d.handle)
      have hEq : (slaveLightSleepInit d ⟨none, false, false, locks⟩).2 =
          ⟨none, false, false, espPmLockDelete d d.handle (create d.handle locks)⟩ := by
        simp only [slaveLightSleepInit, hCreate, hConfigure, Bool.false_eq_true, if_false, ne_eq,
          not_true_eq_false, not_false_eq_true, if_true]
      rw [hEq]
      by_cases hDelete : d.delete = espOk
      · rw [if_pos ⟨hDelete, rfl⟩] at hLeft
        exact ⟨fun _ => .idle hLeft, fun _ => .inr (.inr (.inr hDelete))⟩
      · rw [if_neg fun hBoth => hDelete hBoth.1] at hLeft
        constructor
        · intro hDeletes
          simp [Deletes, hCreate, hConfigure, hDelete] at hDeletes
        · intro hKept
          have hNone := (kept_idle_iff hLeft).mp hKept
          cases hNone
  · refine ⟨fun _ => ?_, fun _ => .inr (.inl hCreate)⟩
    simp only [slaveLightSleepInit, hCreate, Bool.false_eq_true, if_false, ne_eq,
      not_false_eq_true, if_true]
    exact .idle hOnly

/-- The end leaves no lock exactly if the driver deletes it. -/
theorem deinit_ready (hOnly : Only (some (lock, acquired.toNat)) locks) :
    ∃ o' locks', (slaveLightSleepDeinit d ⟨some lock, acquired, true, locks⟩).2 =
        ⟨none, false, false, locks'⟩ ∧ Only o' locks' ∧
      (o' = none ↔ Deletes ⟨some lock, acquired, true, locks⟩ ⟨.deinit, d⟩) := by
  refine ⟨_, _, rfl, espPmLockDelete_only (acquireBeforeDelete_only hOnly), ?_⟩
  by_cases hFree : acquired = false ∧ d.acquire ≠ espOk
  · by_cases hDelete : d.delete = espOk
    · simp [Deletes, hFree, hDelete]
    · simp [Deletes, hFree, hDelete]
  · rw [if_neg hFree, if_neg fun hBoth => Nat.one_ne_zero hBoth.2]
    simp only [reduceCtorEq, Deletes, Bool.true_eq_false, false_or, false_iff]
    exact fun hAll => hFree ⟨hAll.1, hAll.2.1⟩

end Calls

theorem shape_step {s : State} {a : Action} (hShape : Shape s) (hDeletes : Deletes s a) :
    Shape (a.perform s).2 := by
  obtain ⟨call, d⟩ := a
  cases hShape with
  | idle hOnly =>
    cases call with
    | init => exact (init_idle hOnly).1 hDeletes
    | start | stop | deinit => exact .idle hOnly
  | ready hOnly =>
    cases call with
    | init => exact .ready hOnly
    | stop => exact stop_shape hOnly
    | start =>
      obtain ⟨acquired', locks', hEq, hOnly', -⟩ := start_shape (d := d) hOnly
      rw [show (Action.perform ⟨.start, d⟩ _).2 = _ from hEq]
      exact .ready hOnly'
    | deinit =>
      obtain ⟨o', locks', hEq, hOnly', hIff⟩ := deinit_ready (d := d) hOnly
      rw [show (Action.perform ⟨.deinit, d⟩ _).2 = _ from hEq]
      rw [hIff.mpr hDeletes] at hOnly'
      exact .idle hOnly'

theorem not_mem_of_idle {locks : Locks Nat} (hOnly : Only none locks) (lock : Nat) :
    lock ∉ locks := by
  rw [mem_iff_of_only hOnly]
  simp

/-- A call that gives up a lock without deleting it leaves a lock that has no name. -/
theorem deletes_of_kept {s : State} {a : Action} (hShape : Shape s)
    (hKept : Kept (a.perform s).2) : Deletes s a := by
  obtain ⟨call, d⟩ := a
  cases call with
  | start | stop => trivial
  | init =>
    cases hShape with
    | idle hOnly => exact (init_idle hOnly).2 hKept
    | ready hOnly => exact .inl rfl
  | deinit =>
    cases hShape with
    | idle hOnly => exact .inl rfl
    | ready hOnly =>
      obtain ⟨o', locks', hEq, hOnly', hIff⟩ := deinit_ready (d := d) hOnly
      rw [show (Action.perform ⟨.deinit, d⟩ _).2 = _ from hEq] at hKept
      exact hIff.mp ((kept_idle_iff hOnly').mp hKept)

theorem meets_iff {s : State} {a : Action} (hShape : Shape s) : Meets s a ↔ Deletes s a := by
  refine ⟨fun hMeets => deletes_of_kept hShape hMeets.kept, fun hDeletes => ?_⟩
  refine ⟨(shape_step hShape hDeletes).kept, fun hCall => ?_, fun hCall hRet => ?_⟩
  · obtain ⟨call, d⟩ := a
    cases hCall
    cases hShape with
    | idle hOnly => exact not_mem_of_idle hOnly
    | ready hOnly =>
      obtain ⟨o', locks', hEq, hOnly', hIff⟩ := deinit_ready (d := d) hOnly
      rw [show (Action.perform ⟨.deinit, d⟩ _).2 = _ from hEq]
      rw [hIff.mpr hDeletes] at hOnly'
      exact not_mem_of_idle hOnly'
  · obtain ⟨call, d⟩ := a
    cases hCall
    intro lock held hLookup
    cases hShape with
    | idle hOnly => exact absurd hRet (show espErrInvalidState ≠ espOk by decide)
    | ready hOnly =>
      obtain ⟨acquired', locks', hEq, hOnly', hFree⟩ := start_shape (d := d) hOnly
      rw [show (Action.perform ⟨.start, d⟩ _).2 = _ from hEq] at hLookup
      rw [hFree hRet] at hOnly'
      have hSame := (hOnly' lock held).mp hLookup
      cases hSame
      rfl

/-- For every sequence of calls and every answer of the driver. -/
theorem light_sleep_lock {s : State} (hRun : Reaches step Deletes boot s) :
    Kept s ∧ ∀ a, Meets s a ↔ Deletes s a := by
  have hShape := hRun.invariant (I := Shape) boot_shape fun s a t hShape hDeletes hStep => by
    unfold step at hStep
    split at hStep
    · cases hStep
    · cases hStep
      exact shape_step hShape hDeletes
  exact ⟨hShape.kept, fun a => meets_iff hShape⟩

/-- A driver that does what it is asked for. -/
def working (handle : Nat) : Driver := ⟨espOk, espOk, espOk, espOk, espOk, handle⟩

/-- The lock is taken and given back. Then the driver cannot take it, and the end deletes it. -/
theorem light_sleep_lock_ended : ∃ s, Reaches step Deletes boot s ∧ s.pmConfigured = false ∧
    Kept s ∧ ∀ a, Meets s a ↔ Deletes s a := by
  obtain ⟨s, hRun, hEq⟩ := Option.map_eq_some_iff.mp (show (runGuarded step Deletes boot
      [⟨.init, working 1⟩, ⟨.start, working 2⟩,
        ⟨.deinit, { working 2 with acquire := -1 }⟩]).map State.pmConfigured = some false by
      decide +kernel)
  exact ⟨s, .of_run hRun, hEq, light_sleep_lock (.of_run hRun)⟩

/-- A lock that was set up, ended and set up again stays held after the start. -/
theorem held_after_start : ∃ s, Reaches step anyStep boot s ∧
    ((Action.mk .start (working 3)).perform s).1 = espOk ∧
    ((Action.mk .start (working 3)).perform s).2.locks.lookup 1 = some 1 ∧
    ¬ Meets s ⟨.start, working 3⟩ := by
  obtain ⟨s, hRun, hEq⟩ := Option.map_eq_some_iff.mp (show (run step boot
      [⟨.init, working 1⟩, ⟨.deinit, working 2⟩, ⟨.init, working 2⟩]).map
      (fun s => (((Action.mk .start (working 3)).perform s).1,
        ((Action.mk .start (working 3)).perform s).2.locks.lookup 1)) = some (0, some 1) by
      decide +kernel)
  simp only [Prod.mk.injEq] at hEq
  obtain ⟨hRet, hHeld⟩ := hEq
  refine ⟨s, .of_plain_run hRun, hRet, hHeld, fun hMeets => ?_⟩
  exact absurd (hMeets.start rfl hRet 1 1 hHeld) Nat.one_ne_zero

end EspHosted.Power.LightSleep
