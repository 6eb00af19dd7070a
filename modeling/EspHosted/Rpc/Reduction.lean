import EspHosted.Rpc.Async
import EspHosted.Rpc.Unlocked

/-!
# Steps that leave a table alone

What a step of `Core` does not use makes no difference to it, and is not changed by it.

* `step_async`, `step_sync`, `step_timer`, `step_bad`: the two tables, a timer that is stopped
  early, and what was touched too late;
* `step_shadow`: all of them at once, in a memory that is ahead of a state or behind it.
-/

namespace EspHosted.Rpc

open Slots Machine

namespace Core

variable {cfg : Config} {s s' m' : Core} {a : Action}

/-! ## Steps that do not use a table -/

theorem step_async (hUses : a.usesAsync = false) (t : List (Slot AsyncItem)) :
    step cfg { s with asyncRspTable := t } a =
      (step cfg s a).map ({ · with asyncRspTable := t }) := by
  unfold step
  dsimp only
  split
  · rfl
  · cases a with
    | setAsyncRespCallback | scanAsync | isAsyncAvailable | callAsync | rxClearAsync | timerClear
    | cleanupTables | cancelThreads => cases hUses
    | sendReq => rfl
    | _ =>
      dsimp only
      simp only [setSyncRespSem, queueTx, failReq, rpcTxInd, readRspCb, lookupSem, takeSem,
        semTimeout, clearSync, recvRx, freeReq, txTakeSem, recvTx, composeReq, startTimer,
        serialSend, txCleanup, notifyFail, failCleanup, recvResp, queueRx, expire, timerRead,
        timerCall, drainRx, drainTx, txPostSync, rxPostSync, postSyncRespSem]
      (repeat' split) <;> rfl

theorem step_sync (hUses : a.usesSync = false) (t : List (Slot (Option Nat))) :
    step cfg { s with syncRspTable := t } a =
      (step cfg s a).map ({ · with syncRspTable := t }) := by
  unfold step
  dsimp only
  split
  · rfl
  · cases a with
    | setSyncRespSem | lookupSem | clearSync | txPostSync | rxPostSync | cleanupTables
    | cancelThreads => cases hUses
    | sendReq => rfl
    | _ =>
      dsimp only
      simp only [queueTx, failReq, rpcTxInd, readRspCb, takeSem, semTimeout, recvRx, freeReq,
        txTakeSem, recvTx, composeReq, startTimer, setAsyncRespCallback, serialSend, txCleanup,
        notifyFail, failCleanup, scanAsync, recvResp, isAsyncAvailable, callAsync, rxClearAsync,
        queueRx, expire, timerRead, timerClear, timerCall, drainRx, drainTx,
        clearAsyncRespCallback]
      (repeat' split) <;> rfl

/-- Nothing depends on what was touched before. -/
theorem step_touched : step cfg { s with badAccess := true } a =
    (step cfg { s with badAccess := false } a).map ({ · with badAccess := true }) := by
  unfold step
  dsimp only
  split
  · rfl
  · cases a with
    | sendReq => rfl
    | _ =>
      dsimp only
      simp only [setSyncRespSem, queueTx, failReq, rpcTxInd, readRspCb, lookupSem, takeSem,
        semTimeout, clearSync, recvRx, freeReq, txTakeSem, recvTx, composeReq, startTimer,
        setAsyncRespCallback, serialSend, txCleanup, notifyFail, txPostSync, failCleanup,
        scanAsync, recvResp, isAsyncAvailable, callAsync, rxClearAsync, queueRx, rxPostSync,
        expire, timerRead, timerClear, timerCall, drainRx, drainTx, cleanupTables, cancelThreads,
        postSyncRespSem, clearAsyncRespCallback]
      (repeat' split) <;> rfl

/-- The step is one of a timer, or starts one. -/
def Action.usesTimer : Action → Bool
  | .startTimer _ | .expire _ | .timerRead .. | .timerCall _ => true
  | _ => false

theorem step_timers (hUses : a.usesAsync = false) (hTimer : a.usesTimer = false)
    (timer : Nat → TimerPc) :
    step cfg { s with timer } a = (step cfg s a).map ({ · with timer }) := by
  unfold step
  dsimp only
  split
  · rfl
  · cases a with
    | setAsyncRespCallback | scanAsync | isAsyncAvailable | callAsync | rxClearAsync | timerClear
    | cleanupTables | cancelThreads => cases hUses
    | startTimer | expire | timerRead | timerCall => cases hTimer
    | sendReq => rfl
    | _ =>
      dsimp only
      simp only [setSyncRespSem, queueTx, failReq, rpcTxInd, readRspCb, lookupSem, takeSem,
        semTimeout, clearSync, recvRx, freeReq, txTakeSem, recvTx, composeReq, serialSend,
        txCleanup, notifyFail, failCleanup, recvResp, queueRx, drainRx, drainTx, txPostSync,
        rxPostSync, postSyncRespSem]
      (repeat' split) <;> rfl

theorem async_eq (hUses : a.usesAsync = false) (hStep : step cfg s a = some s') :
    s'.asyncRspTable = s.asyncRspTable := by
  have hSame : step cfg s a = (step cfg s a).map ({ · with asyncRspTable := s.asyncRspTable }) :=
    step_async hUses s.asyncRspTable
  rw [hStep] at hSame
  have hEq := Option.some.inj hSame
  rw [hEq]

theorem sync_eq (hUses : a.usesSync = false) (hStep : step cfg s a = some s') :
    s'.syncRspTable = s.syncRspTable := by
  have hSame : step cfg s a = (step cfg s a).map ({ · with syncRspTable := s.syncRspTable }) :=
    step_sync hUses s.syncRspTable
  rw [hStep] at hSame
  have hEq := Option.some.inj hSame
  rw [hEq]

theorem timer_eq (hUses : a.usesAsync = false) (hTimer : a.usesTimer = false)
    (hStep : step cfg s a = some s') : s'.timer = s.timer := by
  have hSame : step cfg s a = (step cfg s a).map ({ · with timer := s.timer }) :=
    step_timers hUses hTimer s.timer
  rw [hStep] at hSame
  have hEq := Option.some.inj hSame
  rw [hEq]

/-- Where a timer is that is not armed, and is not armed next, does not depend on whether another
was stopped. -/
theorem update_stopTimer {timer : Nat → TimerPc} {h : Option Nat} {k : Nat} {pc : TimerPc}
    (hOld : timer k ≠ .armed ∨ h ≠ some k) (hNew : pc ≠ .armed ∨ h ≠ some k) :
    Function.update (stopTimer timer h) k pc = stopTimer (Function.update timer k pc) h := by
  cases h with
  | none => rfl
  | some j =>
    unfold stopTimer
    by_cases hEq : j = k
    · subst hEq
      have hNotOld : timer j ≠ .armed := hOld.resolve_right fun hNe => hNe rfl
      have hNotNew : pc ≠ .armed := hNew.resolve_right fun hNe => hNe rfl
      simp [hNotOld, hNotNew]
    · dsimp only
      rw [Function.update_of_ne hEq]
      split
      · exact Function.update_comm hEq ..
      · rfl

/-- A timer that is stopped early is not missed. -/
theorem step_timer {h : Option Nat} (hUses : a.usesAsync = false)
    (hStart : ∀ k, s.tx = .starting k → h ≠ some k)
    (hStep : step cfg { s with timer := stopTimer s.timer h } a = some m') :
    ∃ s', step cfg s a = some s' ∧ m' = { s' with timer := stopTimer s'.timer h } := by
  by_cases hTimer : a.usesTimer = true
  · unfold step at hStep ⊢
    dsimp only at hStep
    split at hStep
    · cases hStep
    · rename_i hFault
      rw [if_neg hFault]
      cases a with
      | startTimer ok =>
        simp only [startTimer] at hStep ⊢
        split at hStep
        · rename_i k hPc
          split at hStep
          · rename_i hOk
            cases hStep
            have hNe : h ≠ some k := hStart k hPc
            refine ⟨_, if_pos hOk, ?_⟩
            dsimp only
            rw [← update_stopTimer (.inr hNe) (.inr hNe)]
            rfl
          · rename_i hOk
            cases hStep
            exact ⟨_, if_neg hOk, rfl⟩
        · cases hStep
      | expire k =>
        simp only [expire, Option.ite_none_right_eq_some] at hStep ⊢
        obtain ⟨hArmed, hEq⟩ := hStep
        have hRuns : stopTimer s.timer h k ≠ .over := by
          rw [hArmed]
          exact TimerPc.noConfusion
        have hOld : s.timer k = .armed := (stopTimer_eq hRuns).symm.trans hArmed
        have hNe : h ≠ some k := by
          rintro rfl
          simp [stopTimer, hOld] at hArmed
        cases hEq
        refine ⟨_, ⟨hOld, rfl⟩, ?_⟩
        rw [← update_stopTimer (.inr hNe) (.inr hNe)]
      | timerRead k callocOk =>
        simp only [timerRead, Option.ite_none_right_eq_some] at hStep ⊢
        obtain ⟨hExpired, hEq⟩ := hStep
        have hRuns : stopTimer s.timer h k ≠ .over := by
          rw [hExpired]
          exact TimerPc.noConfusion
        have hOld : s.timer k = .expired := (stopTimer_eq hRuns).symm.trans hExpired
        cases hEq
        refine ⟨_, ⟨hOld, rfl⟩, ?_⟩
        dsimp only
        have hNotArmed : s.timer k ≠ .armed := by
          rw [hOld]
          exact TimerPc.noConfusion
        have hNext : (if callocOk = true then TimerPc.clearing else .over) ≠ .armed := by
          split <;> exact TimerPc.noConfusion
        rw [← update_stopTimer (.inl hNotArmed) (.inl hNext)]
        rfl
      | timerCall k =>
        simp only [timerCall, Option.ite_none_right_eq_some] at hStep ⊢
        obtain ⟨hCalling, hEq⟩ := hStep
        have hRuns : stopTimer s.timer h k ≠ .over := by
          rw [hCalling]
          exact TimerPc.noConfusion
        have hOld : s.timer k = .calling := (stopTimer_eq hRuns).symm.trans hCalling
        cases hEq
        have hTimers : Function.update (stopTimer s.timer h) k .over =
            stopTimer (Function.update s.timer k .over) h := by
          refine update_stopTimer (.inl ?_) (.inl TimerPc.noConfusion)
          rw [hOld]
          exact TimerPc.noConfusion
        refine ⟨_, ⟨hOld, rfl⟩, ?_⟩
        rw [hTimers]
      | _ => cases hTimer
  · rw [Bool.not_eq_true] at hTimer
    rw [step_timers hUses hTimer] at hStep
    obtain ⟨s', hStep', rfl⟩ := Option.map_eq_some_iff.mp hStep
    refine ⟨s', hStep', ?_⟩
    rw [timer_eq hUses hTimer hStep']

/-! ## What the other threads leave alone -/

/-- What a step leaves of the thread that does not make it, and of the requests there are. -/
structure Untouched (s s' : Core) (a : Action) : Prop where
  tx : a.thread ≠ some .tx → a ≠ .cancelThreads → s'.tx = s.tx
  caller : ∀ k < s.next, a.thread ≠ some (.caller k) → s'.caller k = s.caller k
  uidOf : ∀ k < s.next, s'.uidOf k = s.uidOf k
  next : s.next ≤ s'.next

theorem step_untouched (hStep : step cfg s a = some s') : Untouched s s' a := by
  have hOther {j k : Nat} (hSome : some (Thread.caller j) ≠ some (.caller k)) : k ≠ j := by
    rintro rfl
    exact hSome rfl
  unfold step at hStep
  split at hStep
  · cases hStep
  · cases a with
    | sendReq =>
      cases hStep
      exact ⟨fun _ _ => rfl, fun _ hLt _ => Function.update_of_ne (Nat.ne_of_lt hLt) ..,
        fun _ hLt => Function.update_of_ne (Nat.ne_of_lt hLt) .., Nat.le_succ _⟩
    | setSyncRespSem | queueTx | failReq | rpcTxInd | readRspCb | lookupSem | takeSem | semTimeout
    | clearSync | recvRx | freeReq =>
      simp only [setSyncRespSem, queueTx, failReq, rpcTxInd, readRspCb, lookupSem, takeSem,
        semTimeout, clearSync, recvRx, freeReq] at hStep
      (repeat' split at hStep) <;> cases hStep <;>
        exact ⟨fun _ _ => rfl, fun _ _ hThread => Function.update_of_ne (hOther hThread) ..,
          fun _ _ => rfl, Nat.le_refl _⟩
    | txTakeSem | recvTx | composeReq | startTimer | setAsyncRespCallback | serialSend | txCleanup
    | notifyFail | txPostSync | failCleanup | scanAsync =>
      simp only [txTakeSem, recvTx, composeReq, startTimer, setAsyncRespCallback, serialSend,
        txCleanup, notifyFail, txPostSync, failCleanup, scanAsync, postSyncRespSem] at hStep
      (repeat' split at hStep) <;> cases hStep <;>
        exact ⟨fun hThread => absurd rfl hThread, fun _ _ _ => rfl, fun _ _ => rfl, Nat.le_refl _⟩
    | cancelThreads =>
      simp only [cancelThreads] at hStep
      split at hStep <;> cases hStep
      exact ⟨fun _ hCancel => absurd rfl hCancel, fun _ _ _ => rfl, fun _ _ => rfl, Nat.le_refl _⟩
    | _ =>
      simp only [recvResp, isAsyncAvailable, callAsync, rxClearAsync, queueRx, rxPostSync, expire,
        timerRead, timerClear, timerCall, drainRx, drainTx, cleanupTables, postSyncRespSem,
        clearAsyncRespCallback] at hStep
      (repeat' split at hStep) <;> cases hStep <;>
        exact ⟨fun _ _ => rfl, fun _ _ _ => rfl, fun _ _ => rfl, Nat.le_refl _⟩

/-! ## A step in a memory that is behind or ahead -/

/-- The tables and timers of a memory, and whether a request was touched in it too late. -/
def shadow (s : Core) (async : List (Slot AsyncItem)) (sync : List (Slot (Option Nat)))
    (stopped : Option Nat) (badAccess : Bool) : Core :=
  { s with asyncRspTable := async, syncRspTable := sync, timer := stopTimer s.timer stopped
           badAccess }

variable {async async' : List (Slot AsyncItem)} {sync sync' : List (Slot (Option Nat))}
  {stopped : Option Nat} {bad : Bool}

theorem shadow_self (s : Core) :
    s.shadow s.asyncRspTable s.syncRspTable none s.badAccess = s := rfl

theorem step_bad (hStep : step cfg { s with badAccess := bad } a = some m') :
    ∃ s', step cfg s a = some s' ∧ m' = { s' with badAccess := m'.badAccess } ∧
      (bad = s.badAccess → m'.badAccess = s'.badAccess) := by
  by_cases hEq : bad = s.badAccess
  · subst hEq
    exact ⟨m', hStep, rfl, fun _ => rfl⟩
  · have hTouched : step cfg { s with badAccess := true } a =
        (step cfg { s with badAccess := false } a).map ({ · with badAccess := true }) :=
      step_touched
    cases bad with
    | false =>
      have hOld : s.badAccess = true := by simpa using Ne.symm hEq
      rw [hStep, ← hOld] at hTouched
      exact ⟨_, hTouched, rfl, fun hSame => absurd hSame hEq⟩
    | true =>
      have hOld : s.badAccess = false := by simpa using Ne.symm hEq
      rw [hStep, ← hOld] at hTouched
      obtain ⟨s', hStep', rfl⟩ := Option.map_eq_some_iff.mp hTouched.symm
      exact ⟨s', hStep', rfl, fun hSame => absurd hSame hEq⟩

/-- A step in the memory is a step in the state, and the two differ afterwards by what they differed
by before. -/
theorem step_shadow (hAsync : a.usesAsync = true → async = s.asyncRspTable ∧ stopped = none)
    (hSync : a.usesSync = true → sync = s.syncRspTable)
    (hStart : ∀ k, s.tx = .starting k → stopped ≠ some k)
    (hStep : step cfg (s.shadow async sync stopped bad) a = some m') :
    ∃ s', step cfg s a = some s' ∧ (bad = s.badAccess → m'.badAccess = s'.badAccess) ∧
      m' = s'.shadow (if a.usesAsync then s'.asyncRspTable else async)
        (if a.usesSync then s'.syncRspTable else sync) stopped m'.badAccess := by
  let timed : Core := { s with timer := stopTimer s.timer stopped }
  let filled : Core := { timed with asyncRspTable := async }
  have hTimed {m : Core} (hm : step cfg timed a = some m) :
      ∃ s', step cfg s a = some s' ∧ m = { s' with timer := stopTimer s'.timer stopped } := by
    cases hUses : a.usesAsync with
    | false => exact step_timer hUses hStart hm
    | true =>
      obtain ⟨-, rfl⟩ := hAsync hUses
      exact ⟨m, hm, rfl⟩
  have hFilled {m : Core} (hm : step cfg filled a = some m) : ∃ m₁, step cfg timed a = some m₁ ∧
      m = { m₁ with asyncRspTable := if a.usesAsync then m₁.asyncRspTable else async } := by
    cases hUses : a.usesAsync with
    | false =>
      obtain ⟨m₁, hStep₁, rfl⟩ := Option.map_eq_some_iff.mp ((step_async hUses async).symm.trans hm)
      exact ⟨m₁, hStep₁, rfl⟩
    | true =>
      obtain ⟨rfl, -⟩ := hAsync hUses
      exact ⟨m, hm, rfl⟩
  have hSynced {m : Core} (hm : step cfg { filled with syncRspTable := sync } a = some m) :
      ∃ m₁, step cfg filled a = some m₁ ∧
        m = { m₁ with syncRspTable := if a.usesSync then m₁.syncRspTable else sync } := by
    cases hUses : a.usesSync with
    | false =>
      obtain ⟨m₁, hStep₁, rfl⟩ := Option.map_eq_some_iff.mp ((step_sync hUses sync).symm.trans hm)
      exact ⟨m₁, hStep₁, rfl⟩
    | true =>
      obtain rfl := hSync hUses
      exact ⟨m, hm, rfl⟩
  have hAll : step cfg { { filled with syncRspTable := sync } with badAccess := bad } a =
      some m' := hStep
  obtain ⟨m₁, hStep₁, hm', hSame⟩ := step_bad hAll
  obtain ⟨m₂, hStep₂, rfl⟩ := hSynced hStep₁
  obtain ⟨m₃, hStep₃, rfl⟩ := hFilled hStep₂
  obtain ⟨s', hStep', rfl⟩ := hTimed hStep₃
  exact ⟨s', hStep', hSame, hm'⟩

end Core

end EspHosted.Rpc
