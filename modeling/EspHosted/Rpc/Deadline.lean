import Mathlib.Data.Nat.Basic
import Mathlib.Tactic.Common

/-!
# Deadlines of requests

A request says in `rsp_timeout_sec`, an `int`, for how many seconds its response is awaited, 0
standing for the default. `wait_for_sync_response` waits on a semaphore, `process_rpc_tx_msg`
starts a timer. The OSAL takes both times in milliseconds, `sem_take` as an `int32_t` and
`timer_start` as a `uint32_t`.

* `waitForSyncResponseTimeout_ne_deadline`: the wait is never the one that was asked for.
* `processRpcTxMsgPeriod_deadline_iff`: the timer is, when a positive number of seconds is given
  that is less than 2^32 milliseconds.
* `not_deadlinesAgree`: there is no value for which the two modes agree.
-/

namespace EspHosted.Rpc

def defaultRpcRspTimeout : BitVec 32 := 5

/-- `H_SEC_TO_MILLISEC`, a product of unsigned numbers. -/
def hSecToMillisec (x : BitVec 32) : BitVec 32 := 1000 * x

/-- `timeout_sec` of `wait_for_sync_response`, which goes to `h_sem_take` as it is. -/
def waitForSyncResponseTimeout (rspTimeoutSec : BitVec 32) : BitVec 32 :=
  if rspTimeoutSec = 0 then defaultRpcRspTimeout else rspTimeoutSec

/-- The period that `process_rpc_tx_msg` passes to `h_timer_start`. -/
def processRpcTxMsgPeriod (rspTimeoutSec : BitVec 32) : BitVec 32 := hSecToMillisec rspTimeoutSec

/-- The milliseconds that a request asks for. -/
def deadline (rspTimeoutSec : BitVec 32) : Int :=
  1000 * (if rspTimeoutSec = 0 then defaultRpcRspTimeout else rspTimeoutSec).toInt

/-- Both modes pass the deadline to the OSAL. -/
def DeadlinesAgree (rspTimeoutSec : BitVec 32) : Prop :=
  waitForSyncResponseTimeout rspTimeoutSec = processRpcTxMsgPeriod rspTimeoutSec ∧
    (waitForSyncResponseTimeout rspTimeoutSec).toInt = deadline rspTimeoutSec ∧
    ((processRpcTxMsgPeriod rspTimeoutSec).toNat : Int) = deadline rspTimeoutSec

instance (rspTimeoutSec : BitVec 32) : Decidable (DeadlinesAgree rspTimeoutSec) :=
  inferInstanceAs (Decidable (_ ∧ _))

variable {rspTimeoutSec : BitVec 32}

theorem waitForSyncResponseTimeout_ne_zero : waitForSyncResponseTimeout rspTimeoutSec ≠ 0 := by
  unfold waitForSyncResponseTimeout
  split
  · decide
  · assumption

/-- A wait in seconds is read as one in milliseconds. -/
theorem waitForSyncResponseTimeout_deadline :
    deadline rspTimeoutSec = 1000 * (waitForSyncResponseTimeout rspTimeoutSec).toInt := rfl

theorem waitForSyncResponseTimeout_ne_deadline :
    (waitForSyncResponseTimeout rspTimeoutSec).toInt ≠ deadline rspTimeoutSec := by
  intro hEq
  rw [waitForSyncResponseTimeout_deadline] at hEq
  have hZero : (waitForSyncResponseTimeout rspTimeoutSec).toInt = 0 := by omega
  have hNe : waitForSyncResponseTimeout rspTimeoutSec ≠ 0 := waitForSyncResponseTimeout_ne_zero
  apply hNe
  apply BitVec.eq_of_toInt_eq
  rw [hZero]
  rfl

/-- The timer runs for the time that was asked for when it is given and does not overflow. -/
theorem processRpcTxMsgPeriod_deadline_iff :
    ((processRpcTxMsgPeriod rspTimeoutSec).toNat : Int) = deadline rspTimeoutSec ↔
      0 < rspTimeoutSec.toInt ∧ 1000 * rspTimeoutSec.toInt < 4294967296 := by
  have hNat := rspTimeoutSec.isLt
  unfold processRpcTxMsgPeriod hSecToMillisec deadline
  rw [BitVec.toNat_mul, show (1000 : BitVec 32).toNat = 1000 from rfl]
  split
  · rename_i hZero
    subst hZero
    decide
  · rename_i hNe
    have hPos : rspTimeoutSec.toNat ≠ 0 := fun h => hNe (BitVec.eq_of_toNat_eq (by simpa using h))
    rw [BitVec.toInt_eq_toNat_cond]
    split <;> omega

/-- The two modes never wait for the same time: `999 * n` is no multiple of 2^32. -/
theorem waitForSyncResponseTimeout_ne_period :
    waitForSyncResponseTimeout rspTimeoutSec ≠ processRpcTxMsgPeriod rspTimeoutSec := by
  unfold waitForSyncResponseTimeout processRpcTxMsgPeriod hSecToMillisec
  split
  · rename_i hZero
    subst hZero
    decide
  · rename_i hNe
    intro hEq
    have hNat := congrArg BitVec.toNat hEq
    rw [BitVec.toNat_mul, show (1000 : BitVec 32).toNat = 1000 from rfl] at hNat
    have hLt := rspTimeoutSec.isLt
    apply hNe
    apply BitVec.eq_of_toNat_eq
    rw [show (0 : BitVec 32).toNat = 0 from rfl]
    omega

theorem not_deadlinesAgree (rspTimeoutSec : BitVec 32) : ¬DeadlinesAgree rspTimeoutSec :=
  fun h => waitForSyncResponseTimeout_ne_deadline h.2.1

/-- Five seconds: the wait ends after 5 ms, the timer after 5000. -/
theorem deadlines_differ : ¬∀ rspTimeoutSec, DeadlinesAgree rspTimeoutSec := by
  intro h
  have hFive := h 5
  revert hFive
  decide

end EspHosted.Rpc
