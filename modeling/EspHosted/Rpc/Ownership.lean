import EspHosted.Lib.Ledger
import EspHosted.Rpc.Simulation
import Mathlib.Data.List.Nodup

/-!
# Who frees a request

An `app_req` is handed on from the caller to the tx thread and, if it is asynchronous, to an
entry of `async_rsp_table` and to a timer; nothing counts who still has it.

* `freedOnce_of_reaches`: along steps of `Core` that free a request only when nobody else has it,
  every request is freed once and not touched afterwards;
* `freed_once`: so it is when the tables are used without a lock, but by one thread at a time;
* `not_freed_once`: the entry of a request that was answered still points to it, and
  de-initialization frees it again.
-/

namespace EspHosted.Rpc

open Slots Machine

/-- The thread does not read its request any more. -/
def CallerPc.done : CallerPc → Bool
  | .finished _ | .failed => true
  | _ => false

/-- The timer has still to read the request. -/
def TimerPc.reads : TimerPc → Bool
  | .armed | .expired => true
  | _ => false

theorem TimerPc.armed_of_reads {pc : TimerPc} (hReads : pc.reads = true)
    (hExpired : pc ≠ .expired) : pc = .armed := by
  cases pc with
  | armed => rfl
  | expired => exact absurd rfl hExpired
  | _ => cases hReads

namespace Core

variable {cfg : Config} {s s' : Core}

/-! ## The condition -/

/-- Nobody but its entry has the request. -/
def Released (s : Core) (k : Nat) : Prop :=
  (s.caller k).done = true ∧ s.tx.held ≠ some k ∧ s.timer k ≠ .expired

instance (s : Core) (k : Nat) : Decidable (Released s k) := inferInstanceAs (Decidable (_ ∧ _))

/-- A uid is not taken while it is in use, no request is refused by `rpc_send_req`, and a request is
freed only when nobody else has it: by its caller when it is behind the tx thread; with its entry
when its caller and the tx thread are done with it and its timer is not about to read it; by the tx
thread when the request is not registered, its caller is done and its timer is not running; and by
`rpc_core_deinit` likewise, if no entry that is free points to a request. The tx thread is not
cancelled while it alone has the request. -/
def Unshared (cfg : Config) (s : Core) : Action → Prop
  | .sendReq => FreshUid cfg s .sendReq
  | .failReq _ => False
  | .freeReq k => k ∉ s.rpcTxQ ∧ s.tx.held ≠ some k
  | .rxClearAsync => ∀ i ∈ s.rx.clears, ∀ k ∈ owner s.asyncRspTable i, Released s k
  | .timerClear k => ∀ i ∈ find s.asyncRspTable (s.uidOf k),
      ∀ j ∈ owner s.asyncRspTable i, Released s j
  | .scanAsync => ∀ k ∈ s.tx.held,
      if Has s.asyncRspTable (s.uidOf k) then
        ∃ i < s.asyncRspTable.length, owner s.asyncRspTable i = some k
      else (s.caller k).done = true ∧ (s.timer k).reads = false
  | .drainTx => ∀ k ∈ s.rpcTxQ, (cfg.app k).async = true ∧ (s.caller k).done = true
  | .cleanupTables => ∀ e ∈ s.asyncRspTable, ∀ k ∈ e.item.appReq, e.uid ≠ 0 ∧ Released s k
  | .cancelThreads => ∀ k ∈ s.tx.held, (cfg.app k).async = true →
      ∃ i < s.asyncRspTable.length, owner s.asyncRspTable i = some k
  | _ => True

instance (cfg : Config) (s : Core) (a : Action) : Decidable (Unshared cfg s a) := by
  apply Action.casesOn (motive := fun a => Decidable (Unshared cfg s a)) a <;> intros <;>
    unfold Unshared <;> infer_instance

theorem Unshared.freshUid {a : Action} (h : Unshared cfg s a) : FreshUid cfg s a := by
  cases a with
  | sendReq => exact h
  | _ => trivial

/-! ## The invariant -/

/-- Somebody has a pointer to the request and may use it. -/
def Used (s : Core) (k : Nat) : Prop :=
  (s.caller k).done = false ∨ k ∈ s.rpcTxQ ∨ s.tx.held = some k ∨ (s.timer k).reads = true ∨
    HasEntry s.asyncRspTable k

/-- Nobody is left who will free the request. -/
def Settled (cfg : Config) (s : Core) (k : Nat) : Prop :=
  s.caller k = .failed ∨
    if (cfg.app k).async then (s.caller k).queued = true ∧ k ∉ s.rpcTxQ ∧ s.tx.held ≠ some k ∧
      ¬ HasEntry s.asyncRspTable k
    else (s.caller k).done = true

structure Ownership (cfg : Config) (s : Core) : Prop where
  good : s.badAccess = false
  ledger : Ledger s.Used (s.Settled cfg) s.freed
  sending : ∀ k, s.tx = .sending k ∨ s.tx = .cleaning k → (cfg.app k).async = true →
    HasEntry s.asyncRspTable k
  accepted : ∀ k, HasEntry s.asyncRspTable k → (s.caller k).queued = true

/-- While its caller stays where it is, a request is settled only by leaving `rpc_tx_q`, the tx
thread or its entry. -/
theorem Settled.of_caller {k : Nat} (h : s'.Settled cfg k) (hCaller : s'.caller k = s.caller k)
    (hLeft : (cfg.app k).async = true → k ∉ s'.rpcTxQ → s'.tx.held ≠ some k →
      ¬ HasEntry s'.asyncRspTable k →
      k ∉ s.rpcTxQ ∧ s.tx.held ≠ some k ∧ ¬ HasEntry s.asyncRspTable k) : s.Settled cfg k := by
  unfold Settled at h ⊢
  rw [hCaller] at h
  refine h.imp_right fun hRest => ?_
  split
  · rename_i hAsync
    rw [if_pos hAsync] at hRest
    obtain ⟨hQueued, hMem, hHeld, hEntry⟩ := hRest
    exact ⟨hQueued, hLeft hAsync hMem hHeld hEntry⟩
  · rename_i hSync
    rwa [if_neg hSync] at hRest

/-- A thread that moves on changes nothing for the other requests. -/
theorem used_setCaller {j k : Nat} {pc : CallerPc} (hNe : j ≠ k) :
    (s.setCaller k pc).Used j ↔ s.Used j := by
  unfold Used
  rw [show (s.setCaller k pc).caller j = s.caller j from Function.update_of_ne hNe ..]
  rfl

theorem settled_setCaller {j k : Nat} {pc : CallerPc} (hNe : j ≠ k) :
    (s.setCaller k pc).Settled cfg j ↔ s.Settled cfg j := by
  unfold Settled
  rw [show (s.setCaller k pc).caller j = s.caller j from Function.update_of_ne hNe ..]
  rfl

namespace Ownership

/-- A request that is used is there. -/
theorem touch (h : Ownership cfg s) {k : Nat} (hUsed : s.Used k) : Ownership cfg (s.touch k) :=
  { h with
    good := by
      unfold Core.touch
      simp only [h.good, h.ledger.used k hUsed]
      rfl
    ledger := h.ledger }

/-- A thread moves on. -/
theorem setCaller (h : Ownership cfg s) {k : Nat} {pc : CallerPc} (hFailed : pc ≠ .failed)
    (hQueued : pc.queued = true ↔ (s.caller k).queued = true)
    (hOld : (s.caller k).done = false)
    (hNew : (cfg.app k).async = false → pc.done = false) : Ownership cfg (s.setCaller k pc) := by
  have hCaller : ∀ j, j ≠ k → (s.setCaller k pc).caller j = s.caller j := fun j hNe =>
    Function.update_of_ne hNe ..
  have hSelf : (s.setCaller k pc).caller k = pc := Function.update_self ..
  refine ⟨h.good, h.ledger.keep ?_ ?_, h.sending, ?_⟩
  · intro j hj
    by_cases hEq : j = k
    · subst hEq
      exact Or.inl hOld
    · exact (used_setCaller hEq).mp hj
  · intro j hj
    by_cases hEq : j = k
    · subst hEq
      unfold Settled at hj ⊢
      rw [hSelf] at hj
      refine Or.inr ?_
      have hRest := hj.resolve_left hFailed
      split
      · rename_i hAsync
        rw [if_pos hAsync, hQueued] at hRest
        exact hRest
      · rename_i hSync
        rw [if_neg hSync, hNew (by simpa using hSync)] at hRest
        cases hRest
    · exact (settled_setCaller hEq).mp hj
  · intro j hj
    have hOldQueued := h.accepted j hj
    by_cases hEq : j = k
    · subst hEq
      rw [hSelf]
      exact hQueued.mpr hOldQueued
    · rwa [hCaller j hEq]

/-- The tx thread goes on with the same request. -/
theorem setTx (h : Ownership cfg s) {tx : TxPc} (hHeld : tx.held = s.tx.held)
    (hSending : ∀ k, tx = .sending k ∨ tx = .cleaning k → (cfg.app k).async = true →
      HasEntry s.asyncRspTable k) : Ownership cfg { s with tx } := by
  refine ⟨h.good, h.ledger.keep ?_ ?_, hSending, h.accepted⟩
  · intro k hk
    unfold Used at hk ⊢
    rwa [hHeld] at hk
  · intro k hk
    unfold Settled at hk ⊢
    rwa [hHeld] at hk

/-- The tx thread lets go of its request, and somebody else has it. -/
theorem dropTx (h : Ownership cfg s) {k : Nat} {tx : TxPc} (hOld : s.tx.held = some k)
    (hNone : tx.held = none)
    (hEntry : (cfg.app k).async = true → HasEntry s.asyncRspTable k) :
    Ownership cfg { s with tx } := by
  have hOther : ∀ j, s.tx.held = some j → j = k := by
    intro j hj
    rw [hOld] at hj
    exact (Option.some.inj hj).symm
  refine ⟨h.good, h.ledger.keep ?_ ?_, ?_, h.accepted⟩
  · rintro j (hCaller | hMem | hHeld | hRest)
    · exact Or.inl hCaller
    · exact Or.inr (Or.inl hMem)
    · rw [show tx.held = some j from hHeld] at hNone
      cases hNone
    · exact Or.inr (Or.inr (Or.inr hRest))
  · intro j hj
    refine hj.of_caller rfl fun hAsync hMem _ hNo => ⟨hMem, fun hHeld => ?_, hNo⟩
    have hEq := hOther j hHeld
    subst hEq
    exact hNo (hEntry hAsync)
  · rintro j (rfl | rfl)
    · cases hNone
    · cases hNone

theorem setTimer (h : Ownership cfg s) {k : Nat} {pc : TimerPc}
    (hReads : pc.reads = true → s.Used k) :
    Ownership cfg { s with timer := Function.update s.timer k pc } := by
  refine ⟨h.good, h.ledger.keep ?_ fun _ => id, h.sending, h.accepted⟩
  rintro j (hCaller | hMem | hHeld | hTimer | hEntry)
  · exact Or.inl hCaller
  · exact Or.inr (Or.inl hMem)
  · exact Or.inr (Or.inr (Or.inl hHeld))
  · by_cases hEq : j = k
    · subst hEq
      simp only [Function.update_self] at hTimer
      exact hReads hTimer
    · simp only [Function.update_of_ne hEq] at hTimer
      exact Or.inr (Or.inr (Or.inr (Or.inl hTimer)))
  · exact Or.inr (Or.inr (Or.inr (Or.inr hEntry)))

/-- The caller frees its request, which nobody else has. -/
theorem freeCaller (h : Ownership cfg s) {k : Nat} {pc : CallerPc}
    (hOld : (s.caller k).done = false) (hDone : pc.done = true) (hQueue : k ∉ s.rpcTxQ)
    (hHeld : s.tx.held ≠ some k) (hReads : (s.timer k).reads = false)
    (hEntry : ¬ HasEntry s.asyncRspTable k) :
    Ownership cfg (((s.touch k).free k).setCaller k pc) := by
  have hUsed : s.Used k := Or.inl hOld
  refine ⟨(h.touch hUsed).good, h.ledger.releaseOne hUsed ?_ ?_, h.sending, ?_⟩
  · intro j hj
    have hNe : j ≠ k := by
      rintro rfl
      rcases hj with hLive | hMem | hTx | hTimer | hHas
      · rw [show Core.caller (((s.touch j).free j).setCaller j pc) j = pc from
          Function.update_self .., hDone] at hLive
        cases hLive
      · exact hQueue hMem
      · exact hHeld hTx
      · have hSome : (s.timer j).reads = true := hTimer
        rw [hReads] at hSome
        cases hSome
      · exact hEntry hHas
    exact ⟨(used_setCaller hNe).mp hj, hNe⟩
  · intro j hj
    by_cases hEq : j = k
    · exact Or.inr hEq
    · exact Or.inl ((settled_setCaller hEq).mp hj)
  · intro j hj
    have hNe : j ≠ k := by
      rintro rfl
      exact hEntry hj
    rw [show Core.caller (((s.touch k).free k).setCaller k pc) j = s.caller j from
      Function.update_of_ne hNe ..]
    exact h.accepted j hj

end Ownership

/-! ### Callers -/

theorem sendReq_ownership (hSound : Sound cfg s) (h : Ownership cfg s)
    (hStep : sendReq cfg s = some s') : Ownership cfg s' := by
  have hBorn := hSound.queued.born s.next (Nat.le_refl _)
  cases hStep
  have hCaller : ∀ j, j ≠ s.next → Function.update s.caller s.next
      (if (cfg.app s.next).async then .queueing else .registering) j = s.caller j :=
    fun j hNe => Function.update_of_ne hNe ..
  refine ⟨h.good, h.ledger.keep ?_ ?_, h.sending, ?_⟩
  · intro j hj
    by_cases hEq : j = s.next
    · subst hEq
      exact Or.inl (by rw [hBorn]; rfl)
    · simpa only [Used, hCaller j hEq] using hj
  · intro j hj
    by_cases hEq : j = s.next
    · subst hEq
      unfold Settled at hj
      simp only [Function.update_self] at hj
      cases hAsync : (cfg.app s.next).async with
      | true => simp [hAsync, CallerPc.queued] at hj
      | false => simp [hAsync, CallerPc.done] at hj
    · simpa only [Settled, hCaller j hEq] using hj
  · intro j hj
    have hQueued := h.accepted j hj
    have hNe : j ≠ s.next := by
      rintro rfl
      rw [hBorn] at hQueued
      cases hQueued
    simpa only [hCaller j hNe] using hQueued

theorem setSyncRespSem_ownership {createOk : Bool} {k : Nat} (h : Ownership cfg s)
    (hStep : setSyncRespSem cfg createOk k s = some s') : Ownership cfg s' := by
  unfold setSyncRespSem at hStep
  split at hStep
  · rename_i hPc
    have hTouched : Ownership cfg (s.touch k) := h.touch (Or.inl (by rw [hPc]; rfl))
    have hCaller : (s.touch k).caller k = .registering := hPc
    have hGo : ∀ pc : CallerPc, pc ≠ .failed → pc.queued = false → pc.done = false →
        Ownership cfg ((s.touch k).setCaller k pc) := by
      intro pc hFailed hQueued hDone
      refine hTouched.setCaller hFailed ?_ (by rw [hCaller]; rfl) fun _ => hDone
      rw [hCaller, hQueued]
      rfl
    split at hStep
    · cases hStep
      exact hGo .failing (by simp) rfl rfl
    · split at hStep
      · have hFail := hGo .failing (by simp) rfl rfl
        cases hStep
        exact { hFail with ledger := hFail.ledger }
      · have hQueue := hGo .queueing (by simp) rfl rfl
        cases hStep
        exact { hQueue with ledger := hQueue.ledger }
  · cases hStep

theorem queueTx_ownership {ok : Bool} {k : Nat} (h : Ownership cfg s)
    (hStep : queueTx ok k s = some s') : Ownership cfg s' := by
  unfold queueTx at hStep
  split at hStep
  · rename_i hPc
    split at hStep
    · split at hStep
      · cases hStep
        have hCaller : ∀ j, j ≠ k → (s.setCaller k .indicating).caller j = s.caller j :=
          fun j hNe => Function.update_of_ne hNe ..
        have hSelf : (s.setCaller k .indicating).caller k = .indicating := Function.update_self ..
        refine ⟨h.good, h.ledger.keep ?_ ?_, h.sending, ?_⟩
        · intro j hj
          by_cases hEq : j = k
          · subst hEq
            exact Or.inl (by rw [hPc]; rfl)
          · rcases hj with hDone | hMem | hRest
            · rw [hCaller j hEq] at hDone
              exact Or.inl hDone
            · exact Or.inr (Or.inl (by simpa [hEq] using hMem))
            · exact Or.inr (Or.inr hRest)
        · intro j hj
          by_cases hEq : j = k
          · subst hEq
            simp [Settled, hSelf, CallerPc.done] at hj
          · unfold Settled at hj ⊢
            have hOld := hCaller j hEq
            simp only [Core.setCaller] at hOld hj
            simpa [hOld, hEq] using hj
        · intro j hj
          by_cases hEq : j = k
          · subst hEq
            exact congrArg CallerPc.queued hSelf
          · rw [show Core.caller _ j = s.caller j from hCaller j hEq]
            exact h.accepted j hj
      · cases hStep
    · cases hStep
      apply h.setCaller (by simp) _ (by rw [hPc]; rfl) fun _ => rfl
      rw [hPc]
      rfl
  · cases hStep

/-- Only an asynchronous request that was accepted has a timer. -/
theorem not_reads (hStarted : Started cfg s) {k : Nat}
    (hk : (cfg.app k).async = true → (s.caller k).queued = true → False) :
    (s.timer k).reads = false := by
  by_contra hReads
  obtain ⟨hAsync, hQueued, -⟩ := hStarted k (by rintro hEq; simp [hEq, TimerPc.reads] at hReads)
  exact hk hAsync hQueued

/-- A thread goes on that has its request in `rpc_tx_q` or behind it. -/
theorem move_ownership {k : Nat} {pc : CallerPc} (h : Ownership cfg s)
    (hOld : (s.caller k).queued = true) (hDone : (s.caller k).done = false)
    (hQueued : pc.queued = true) (hNew : (cfg.app k).async = false → pc.done = false) :
    Ownership cfg (s.setCaller k pc) := by
  refine h.setCaller ?_ (by rw [hOld, hQueued]) hDone hNew
  rintro rfl
  cases hQueued

theorem rpcTxInd_ownership {k : Nat} (h : Ownership cfg s)
    (hStep : rpcTxInd cfg k s = some s') : Ownership cfg s' := by
  unfold rpcTxInd at hStep
  split at hStep
  · rename_i hPc
    have hMove : Ownership cfg (s.setCaller k .returned) :=
      move_ownership h (by rw [hPc]; rfl) (by rw [hPc]; rfl) rfl fun _ => rfl
    cases hStep
    exact { hMove with ledger := hMove.ledger }
  · cases hStep

theorem readRspCb_ownership {k : Nat} (h : Ownership cfg s)
    (hStep : readRspCb cfg k s = some s') : Ownership cfg s' := by
  unfold readRspCb at hStep
  split at hStep
  · rename_i hPc
    have hTouched : Ownership cfg (s.touch k) := h.touch (Or.inl (by rw [hPc]; rfl))
    have hCaller : (s.touch k).caller k = .returned := hPc
    have hMove : ∀ pc : CallerPc, pc.queued = true →
        ((cfg.app k).async = false → pc.done = false) →
        Ownership cfg ((s.touch k).setCaller k pc) := fun pc hQueued hNew =>
      move_ownership hTouched (by rw [hCaller]; rfl) (by rw [hCaller]; rfl) hQueued hNew
    cases hStep
    cases hAsync : (cfg.app k).async with
    | true => exact hMove (.finished none) rfl (by simp [hAsync])
    | false => exact hMove .lookup rfl fun _ => rfl
  · cases hStep

theorem lookupSem_ownership {k : Nat} (h : Ownership cfg s)
    (hStep : lookupSem cfg k s = some s') : Ownership cfg s' := by
  unfold lookupSem at hStep
  split at hStep
  · rename_i hPc
    have hTouched : Ownership cfg (s.touch k) := h.touch (Or.inl (by rw [hPc]; rfl))
    have hCaller : (s.touch k).caller k = .lookup := hPc
    have hMove : ∀ pc : CallerPc, pc.queued = true → pc.done = false →
        Ownership cfg ((s.touch k).setCaller k pc) := fun pc hQueued hNew =>
      move_ownership hTouched (by rw [hCaller]; rfl) (by rw [hCaller]; rfl) hQueued fun _ => hNew
    split at hStep
    · cases hStep
      exact hMove (.freeing none) rfl rfl
    · split at hStep
      · cases hStep
        exact hMove (.freeing none) rfl rfl
      · cases hStep
        exact hMove (.waiting _ _) rfl rfl
  · cases hStep

theorem takeSem_ownership {k : Nat} (h : Ownership cfg s) (hStep : takeSem k s = some s') :
    Ownership cfg s' := by
  unfold takeSem at hStep
  split at hStep
  · rename_i i j hPc
    split at hStep
    · have hMove : Ownership cfg (s.setCaller k (.taken i true)) :=
        move_ownership h (by rw [hPc]; rfl) (by rw [hPc]; rfl) rfl fun _ => rfl
      cases hStep
      exact { hMove with ledger := hMove.ledger }
    · cases hStep
  · cases hStep

theorem semTimeout_ownership {k : Nat} (h : Ownership cfg s)
    (hStep : semTimeout k s = some s') : Ownership cfg s' := by
  unfold semTimeout at hStep
  split at hStep
  · rename_i i own hPc
    split at hStep
    · cases hStep
    · cases hStep
      exact move_ownership h (by rw [hPc]; rfl) (by rw [hPc]; rfl) rfl fun _ => rfl
  · cases hStep

theorem clearSync_ownership {k : Nat} (h : Ownership cfg s) (hStep : clearSync k s = some s') :
    Ownership cfg s' := by
  unfold clearSync at hStep
  split at hStep
  · rename_i i ok hPc
    have hMove : Ownership cfg (s.setCaller k (if ok then .receiving else .freeing none)) := by
      cases ok <;>
        exact move_ownership h (by rw [hPc]; rfl) (by rw [hPc]; rfl) rfl fun _ => rfl
    cases hStep
    exact { hMove with ledger := hMove.ledger }
  · cases hStep

theorem recvRx_ownership {k : Nat} (h : Ownership cfg s) (hStep : recvRx k s = some s') :
    Ownership cfg s' := by
  unfold recvRx at hStep
  split at hStep
  · rename_i hPc
    have hMove : ∀ resp, Ownership cfg (s.setCaller k (.freeing resp)) := fun resp =>
      move_ownership h (by rw [hPc]; rfl) (by rw [hPc]; rfl) rfl fun _ => rfl
    split at hStep
    · split at hStep
      · cases hStep
      · rename_i resp rest hQueue
        have hReceived := hMove (some resp)
        cases hStep
        exact { hReceived with ledger := hReceived.ledger }
    · cases hStep
      exact hMove none
  · cases hStep

/-- The caller frees a synchronous request that the tx thread is done with. -/
theorem freeReq_ownership {k : Nat} (hSound : Sound cfg s) (hStarted : Started cfg s)
    (h : Ownership cfg s) (hUnshared : Unshared cfg s (.freeReq k))
    (hStep : freeReq k s = some s') : Ownership cfg s' := by
  unfold freeReq at hStep
  split at hStep
  · rename_i resp hPc
    obtain ⟨hQueue, hHeld⟩ := hUnshared
    have hSync : (cfg.app k).async ≠ true := by
      rw [hSound.kind k (by rw [hPc]; rfl)]
      decide
    cases hStep
    apply h.freeCaller (by rw [hPc]; rfl) rfl hQueue hHeld
    · exact not_reads hStarted fun hAsync _ => hSync hAsync
    · rintro ⟨i, hOwner⟩
      exact hSync (hSound.tables.owner_entry hOwner).2.1
  · cases hStep

/-! ### The tx thread -/

theorem held_of_pc {tx : TxPc} {k : Nat} (hPc : s.tx = tx) (hHeld : tx.held = some k) :
    s.tx.held = some k := by
  rw [hPc]
  exact hHeld

theorem used_of_held {k : Nat} (hHeld : s.tx.held = some k) : s.Used k :=
  Or.inr (Or.inr (Or.inl hHeld))

theorem txTakeSem_ownership (h : Ownership cfg s) (hStep : txTakeSem s = some s') :
    Ownership cfg s' := by
  unfold txTakeSem at hStep
  split at hStep
  · rename_i hPc
    have hTx : Ownership cfg { s with tx := .dequeuing } :=
      h.setTx (by rw [hPc.1]; rfl) (by simp)
    cases hStep
    exact { hTx with ledger := hTx.ledger }
  · cases hStep

theorem recvTx_ownership (h : Ownership cfg s) (hStep : recvTx s = some s') :
    Ownership cfg s' := by
  unfold recvTx at hStep
  split at hStep
  · rename_i hPc
    have hNone : s.tx.held = none := by
      rw [hPc]
      rfl
    split at hStep
    · split at hStep
      · cases hStep
      · rename_i k rpcTxQ hQueue
        cases hStep
        refine ⟨h.good, h.ledger.keep ?_ ?_, by simp, h.accepted⟩
        · rintro j (hCaller | hMem | hHeld | hRest)
          · exact Or.inl hCaller
          · refine Or.inr (Or.inl ?_)
            rw [hQueue]
            exact List.mem_cons_of_mem _ hMem
          · cases hHeld
            refine Or.inr (Or.inl ?_)
            rw [hQueue]
            exact List.mem_cons_self ..
          · exact Or.inr (Or.inr (Or.inr hRest))
        · intro j hj
          refine hj.of_caller rfl fun _ hMem hHeld hEntry => ⟨?_, by simp [hNone], hEntry⟩
          rw [hQueue]
          intro hOld
          rcases List.mem_cons.mp hOld with rfl | hOld
          · exact hHeld rfl
          · exact hMem hOld
    · cases hStep
      exact h.setTx hNone.symm (by simp)
  · cases hStep

theorem composeReq_ownership {ok : Bool} (h : Ownership cfg s)
    (hStep : composeReq cfg ok s = some s') : Ownership cfg s' := by
  unfold composeReq at hStep
  split at hStep
  · rename_i k hPc
    have hHeld : s.tx.held = some k := held_of_pc hPc rfl
    have hTouched := h.touch (used_of_held hHeld)
    cases hStep
    apply hTouched.setTx
    · rw [show (s.touch k).tx.held = some k from hHeld]
      cases ok with
      | false => rfl
      | true => cases (cfg.app k).async <;> rfl
    · rintro j hTx hAsync
      cases ok with
      | false => simp at hTx
      | true =>
        cases hKind : (cfg.app k).async with
        | true => simp [hKind] at hTx
        | false =>
          simp only [hKind, Bool.not_true, Bool.false_eq_true, if_false, TxPc.sending.injEq,
            reduceCtorEq, or_false] at hTx
          rw [← hTx, hKind] at hAsync
          cases hAsync
  · cases hStep

theorem startTimer_ownership {ok : Bool} (h : Ownership cfg s)
    (hStep : startTimer ok s = some s') : Ownership cfg s' := by
  unfold startTimer at hStep
  split at hStep
  · rename_i k hPc
    have hHeld : s.tx.held = some k := held_of_pc hPc rfl
    have hTouched := h.touch (used_of_held hHeld)
    split at hStep
    · have hTx : Ownership cfg { s.touch k with tx := .registering k } :=
        hTouched.setTx hHeld.symm (by simp)
      cases hStep
      exact hTx.setTimer fun _ => used_of_held rfl
    · cases hStep
      exact hTouched.setTx hHeld.symm (by simp)
  · cases hStep

theorem setAsyncRespCallback_ownership (hSound : Sound cfg s) (h : Ownership cfg s)
    (hStep : setAsyncRespCallback cfg s = some s') : Ownership cfg s' := by
  unfold setAsyncRespCallback at hStep
  split at hStep
  · rename_i k hPc
    have hHeld : s.tx.held = some k := held_of_pc hPc rfl
    have hUsed : s.Used k := used_of_held hHeld
    have hTouched := h.touch hUsed
    have hFail : Ownership cfg { s.touch k with tx := .notifying k } :=
      hTouched.setTx hHeld.symm (by simp)
    split at hStep
    · cases hStep
      exact hFail
    · split at hStep
      · cases hStep
        exact hFail
      · rename_i i hFree
        obtain ⟨e, he, hUid⟩ := find_some hFree
        have hLt : k < s.next := hSound.queued.lt_next fun hUnborn => by
          have hQueued := hSound.queued.queued k (Or.inr hHeld)
          rw [hUnborn] at hQueued
          cases hQueued
        have hNew : owner (s.asyncRspTable.set i (asyncEntry s.uidOf k)) i = some k := by
          apply owner_of_entry _ (hSound.tables.uid k hLt)
          rw [List.getElem?_set_self (List.getElem?_eq_some_iff.mp he).1]
        have hOld : ∀ j, HasEntry (s.asyncRspTable.set i (asyncEntry s.uidOf k)) j →
            j = k ∨ HasEntry s.asyncRspTable j := by
          rintro j ⟨l, hOwner⟩
          rcases owner_set hOwner with ⟨-, hEq⟩ | ⟨-, hOwner⟩
          · cases hEq
            exact Or.inl rfl
          · exact Or.inr ⟨l, hOwner⟩
        -- the entry that is filled was free
        have hKept : ∀ j, HasEntry s.asyncRspTable j →
            HasEntry (s.asyncRspTable.set i (asyncEntry s.uidOf k)) j := by
          rintro j ⟨l, hOwner⟩
          refine ⟨l, ?_⟩
          rwa [owner_set_ne]
          rintro rfl
          rw [owner_free he hUid] at hOwner
          cases hOwner
        cases hStep
        refine ⟨hTouched.good, h.ledger.keep ?_ ?_, ?_, ?_⟩
        · rintro j (hCaller | hMem | hTx | hTimer | hEntry)
          · exact Or.inl hCaller
          · exact Or.inr (Or.inl hMem)
          · cases hTx
            exact hUsed
          · exact Or.inr (Or.inr (Or.inr (Or.inl hTimer)))
          · rcases hOld j hEntry with rfl | hEntry
            · exact hUsed
            · exact Or.inr (Or.inr (Or.inr (Or.inr hEntry)))
        · intro j hj
          exact hj.of_caller rfl fun _ hMem hTx hEntry =>
            ⟨hMem, by rwa [hHeld], fun hHas => hEntry (hKept j hHas)⟩
        · rintro j (hTx | hTx) -
          · cases hTx
            exact ⟨i, hNew⟩
          · cases hTx
        · intro j hEntry
          rcases hOld j hEntry with rfl | hEntry
          · exact hSound.queued.queued j (Or.inr hHeld)
          · exact h.accepted j hEntry
  · cases hStep

theorem serialSend_ownership {ok : Bool} (h : Ownership cfg s)
    (hStep : serialSend ok s = some s') : Ownership cfg s' := by
  unfold serialSend at hStep
  split at hStep
  · rename_i k hPc
    cases hStep
    cases ok with
    | false =>
      have hFail : Ownership cfg { s with tx := .notifying k } :=
        h.setTx (by rw [hPc]; rfl) (by simp)
      exact hFail
    | true =>
      apply h.setTx (by rw [hPc]; rfl)
      rintro j (hTx | hTx) hAsync
      · cases hTx
      · cases hTx
        exact h.sending k (Or.inl hPc) hAsync
  · cases hStep

theorem txCleanup_ownership (h : Ownership cfg s) (hStep : txCleanup s = some s') :
    Ownership cfg s' := by
  unfold txCleanup at hStep
  split at hStep
  · rename_i k hPc
    have hHeld : s.tx.held = some k := held_of_pc hPc rfl
    cases hStep
    exact (h.touch (used_of_held hHeld)).dropTx hHeld rfl (h.sending k (Or.inr hPc))
  · cases hStep

theorem notifyFail_ownership {callocOk : Bool} (h : Ownership cfg s)
    (hStep : notifyFail cfg callocOk s = some s') : Ownership cfg s' := by
  unfold notifyFail at hStep
  split at hStep
  · rename_i k hPc
    have hHeld : s.tx.held = some k := held_of_pc hPc rfl
    have hTouched := h.touch (used_of_held hHeld)
    have hDone : Ownership cfg { s.touch k with tx := .failCleaning k } :=
      hTouched.setTx hHeld.symm (by simp)
    split at hStep
    · cases hStep
      exact hDone
    · split at hStep
      · cases hStep
        exact { hDone with ledger := hDone.ledger }
      · split at hStep
        · cases hStep
          exact hDone
        · split at hStep
          · have hPost : Ownership cfg { s.touch k with
                tx := .posting k ⟨(cfg.app k).expRespMsgId, 0⟩ } :=
              hTouched.setTx hHeld.symm (by simp)
            cases hStep
            exact { hPost with ledger := hPost.ledger }
          · cases hStep
  · cases hStep

/-- `post_sync_resp_sem` does not know any request. -/
theorem Ownership.postSync (h : Ownership cfg s) (resp : Resp) :
    Ownership cfg (s.postSyncRespSem resp) := by
  obtain ⟨sem, woken, fault, hEq⟩ := postSyncRespSem_frame resp s
  rw [hEq]
  exact { h with ledger := h.ledger }

theorem txPostSync_ownership (h : Ownership cfg s) (hStep : txPostSync s = some s') :
    Ownership cfg s' := by
  unfold txPostSync at hStep
  split at hStep
  · rename_i k resp hPc
    cases hStep
    apply (h.postSync resp).setTx _ (by simp)
    obtain ⟨sem, woken, fault, hEq⟩ := postSyncRespSem_frame resp s
    rw [hEq, hPc]
    rfl
  · cases hStep

theorem failCleanup_ownership (h : Ownership cfg s) (hStep : failCleanup cfg s = some s') :
    Ownership cfg s' := by
  unfold failCleanup at hStep
  split at hStep
  · rename_i k hPc
    have hHeld : s.tx.held = some k := held_of_pc hPc rfl
    have hTouched := h.touch (used_of_held hHeld)
    cases hStep
    cases hAsync : (cfg.app k).async with
    | true => exact hTouched.setTx hHeld.symm (by simp)
    | false =>
      apply hTouched.dropTx hHeld rfl
      rw [hAsync]
      exact nofun
  · cases hStep

/-- An asynchronous request that is not in the table is freed, if nobody else has it. -/
theorem scanAsync_ownership (hSound : Sound cfg s) (h : Ownership cfg s)
    (hUnshared : Unshared cfg s .scanAsync) (hStep : scanAsync s = some s') :
    Ownership cfg s' := by
  unfold scanAsync at hStep
  split at hStep
  · rename_i k hPc
    have hHeld : s.tx.held = some k := held_of_pc hPc rfl
    have hUsed : s.Used k := used_of_held hHeld
    have hTouched := h.touch hUsed
    have hAlone := hUnshared k hHeld
    split at hStep
    · rename_i hHas
      rw [if_pos hHas] at hAlone
      obtain ⟨i, -, hOwner⟩ := hAlone
      cases hStep
      exact hTouched.dropTx hHeld rfl fun _ => ⟨i, hOwner⟩
    · rename_i hHas
      rw [if_neg hHas] at hAlone
      obtain ⟨hDone, hReads⟩ := hAlone
      cases hStep
      refine ⟨hTouched.good, h.ledger.releaseOne hUsed ?_ ?_, by simp, h.accepted⟩
      · rintro j (hCaller | hMem | hTx | hTimer | hEntry)
        · have hLive : (s.caller j).done = false := hCaller
          refine ⟨Or.inl hLive, ?_⟩
          rintro rfl
          rw [hDone] at hLive
          cases hLive
        · refine ⟨Or.inr (Or.inl hMem), ?_⟩
          rintro rfl
          exact hSound.queued.single j hHeld hMem
        · cases hTx
        · have hSome : (s.timer j).reads = true := hTimer
          refine ⟨Or.inr (Or.inr (Or.inr (Or.inl hSome))), ?_⟩
          rintro rfl
          rw [hReads] at hSome
          cases hSome
        · refine ⟨Or.inr (Or.inr (Or.inr (Or.inr hEntry))), ?_⟩
          rintro rfl
          obtain ⟨i, hOwner⟩ := hEntry
          exact hHas (has_of_getElem (hSound.tables.owner_entry hOwner).2.2)
      · intro j hj
        by_cases hEq : j = k
        · exact Or.inr hEq
        · refine Or.inl ?_
          refine hj.of_caller rfl fun _ hMem _ hEntry => ⟨hMem, ?_, hEntry⟩
          rw [hHeld]
          exact fun hSame => hEq (Option.some.inj hSame).symm
  · cases hStep

/-! ### Entries -/

/-- A request that has an entry is not in `rpc_tx_q` any more. -/
theorem Sound.not_mem_of_owner (hSound : Sound cfg s) {i k : Nat}
    (hOwner : owner s.asyncRspTable i = some k) : k ∉ s.rpcTxQ := by
  intro hMem
  apply hSound.tables.owner_not_pending hOwner
  unfold Pending Rpc.Pending
  rw [if_pos (hSound.tables.owner_entry hOwner).2.1]
  exact Or.inr (Or.inl hMem)

/-- An entry is cleared whose request nobody else has. -/
theorem Ownership.clearAsync (hSound : Sound cfg s) (h : Ownership cfg s) {i : Nat}
    (hReleased : ∀ k ∈ owner s.asyncRspTable i, s.Released k) :
    Ownership cfg (s.clearAsyncRespCallback i) := by
  rcases hSound.clearAsync_spec i with ⟨-, hEq⟩ | ⟨k, hOwner, hEq⟩
  · rwa [hEq]
  · obtain ⟨hDone, hHeld, hExpired⟩ := hReleased k hOwner
    have hOld : ∀ j, HasEntry (s.clearAsyncRespCallback i).asyncRspTable j →
        HasEntry s.asyncRspTable j ∧ j ≠ k := by
      rintro j ⟨l, hl⟩
      obtain ⟨hNe, hl⟩ := hSound.owner_cleared hl
      refine ⟨⟨l, hl⟩, ?_⟩
      rintro rfl
      exact hNe (hSound.tables.owner_inj hl hOwner)
    have hKept : ∀ j, j ≠ k → HasEntry s.asyncRspTable j →
        HasEntry (s.clearAsyncRespCallback i).asyncRspTable j := by
      rintro j hNe ⟨l, hl⟩
      refine ⟨l, ?_⟩
      rw [hEq]
      show owner (s.asyncRspTable.set i _) l = some j
      rwa [owner_set_ne]
      rintro rfl
      rw [hOwner] at hl
      exact hNe (Option.some.inj hl).symm
    rw [hEq] at hOld hKept ⊢
    refine ⟨h.good, h.ledger.releaseOne ?_ ?_ ?_, ?_, fun j hj => h.accepted j (hOld j hj).1⟩
    · exact Or.inr (Or.inr (Or.inr (Or.inr ⟨i, hOwner⟩)))
    · rintro j (hCaller | hMem | hTx | hTimer | hEntry)
      · have hLive : (s.caller j).done = false := hCaller
        refine ⟨Or.inl hLive, ?_⟩
        rintro rfl
        rw [hDone] at hLive
        cases hLive
      · refine ⟨Or.inr (Or.inl hMem), ?_⟩
        rintro rfl
        exact hSound.not_mem_of_owner hOwner hMem
      · refine ⟨Or.inr (Or.inr (Or.inl hTx)), ?_⟩
        rintro rfl
        exact hHeld hTx
      · have hReads : (stopTimer s.timer (some k) j).reads = true := hTimer
        have hSame : stopTimer s.timer (some k) j = s.timer j := by
          apply stopTimer_eq
          intro hOver
          rw [hOver] at hReads
          cases hReads
        rw [hSame] at hReads
        refine ⟨Or.inr (Or.inr (Or.inr (Or.inl hReads))), ?_⟩
        rintro rfl
        -- it is not armed, since that would have been stopped
        have hArmed : s.timer j = .armed := TimerPc.armed_of_reads hReads hExpired
        simp [stopTimer, hArmed] at hSame
      · obtain ⟨hEntry, hNe⟩ := hOld j hEntry
        exact ⟨Or.inr (Or.inr (Or.inr (Or.inr hEntry))), hNe⟩
    · intro j hj
      by_cases hSelf : j = k
      · exact Or.inr hSelf
      · refine Or.inl ?_
        exact hj.of_caller rfl fun _ hMem hTx hEntry =>
          ⟨hMem, hTx, fun hHas => hEntry (hKept j hSelf hHas)⟩
    · intro j hTx hAsync
      apply hKept j _ (h.sending j hTx hAsync)
      rintro rfl
      apply hHeld
      rcases hTx with hTx | hTx <;> rw [show s.tx = _ from hTx] <;> rfl

theorem rxClearAsync_ownership (hSound : Sound cfg s) (h : Ownership cfg s)
    (hUnshared : Unshared cfg s .rxClearAsync) (hStep : rxClearAsync s = some s') :
    Ownership cfg s' := by
  unfold rxClearAsync at hStep
  split at hStep
  · rename_i i hPc
    have hCleared := h.clearAsync hSound (hUnshared i (by rw [hPc]; rfl))
    cases hStep
    exact { hCleared with ledger := hCleared.ledger }
  · cases hStep

/-! ### Timers -/

theorem expire_ownership {k : Nat} (h : Ownership cfg s) (hStep : expire k s = some s') :
    Ownership cfg s' := by
  unfold expire at hStep
  split at hStep
  · rename_i hPc
    cases hStep
    apply h.setTimer
    exact fun _ => Or.inr (Or.inr (Or.inr (Or.inl (by rw [hPc]; rfl))))
  · cases hStep

theorem timerRead_ownership {callocOk : Bool} {k : Nat} (h : Ownership cfg s)
    (hStep : timerRead callocOk k s = some s') : Ownership cfg s' := by
  unfold timerRead at hStep
  split at hStep
  · rename_i hPc
    have hTouched := h.touch (Or.inr (Or.inr (Or.inr (Or.inl (by rw [hPc]; rfl)))))
    cases hStep
    apply hTouched.setTimer
    cases callocOk <;> exact nofun
  · cases hStep

theorem timerClear_ownership {k : Nat} (hSound : Sound cfg s) (h : Ownership cfg s)
    (hUnshared : Unshared cfg s (.timerClear k)) (hStep : timerClear k s = some s') :
    Ownership cfg s' := by
  unfold timerClear at hStep
  split at hStep
  · split at hStep
    · cases hStep
      exact h.setTimer nofun
    · rename_i i hFind
      have hCleared := h.clearAsync hSound (hUnshared i hFind)
      cases hStep
      exact hCleared.setTimer nofun
  · cases hStep

theorem timerCall_ownership {k : Nat} (h : Ownership cfg s) (hStep : timerCall k s = some s') :
    Ownership cfg s' := by
  unfold timerCall at hStep
  split at hStep
  · have hOver : Ownership cfg { s with timer := Function.update s.timer k .over } :=
      h.setTimer nofun
    cases hStep
    exact { hOver with ledger := hOver.ledger }
  · cases hStep

/-! ### De-initialization -/

theorem drainTx_ownership (hSound : Sound cfg s) (hStarted : Started cfg s)
    (h : Ownership cfg s) (hUnshared : Unshared cfg s .drainTx) (hStep : drainTx s = some s') :
    Ownership cfg s' := by
  unfold drainTx at hStep
  split at hStep
  · have hCount : ∀ j, s.rpcTxQ.count j ≠ 0 → j ∈ s.rpcTxQ := fun j hj =>
      List.count_pos_iff.mp (Nat.pos_of_ne_zero hj)
    cases hStep
    refine ⟨h.good, h.ledger.release s.rpcTxQ.count (fun _ => rfl)
      (List.nodup_iff_count_le_one.mp hSound.queued.nodup)
      (fun j hj => Or.inr (Or.inl (hCount j hj))) ?_ ?_, h.sending, h.accepted⟩
    · rintro j (hCaller | hMem | hTx | hTimer | hEntry)
      · have hLive : (s.caller j).done = false := hCaller
        refine ⟨Or.inl hLive, ?_⟩
        by_contra hSome
        rw [(hUnshared j (hCount j hSome)).2] at hLive
        cases hLive
      · cases hMem
      · refine ⟨Or.inr (Or.inr (Or.inl hTx)), ?_⟩
        by_contra hSome
        exact hSound.queued.single j hTx (hCount j hSome)
      · have hReads : (s.timer j).reads = true := hTimer
        refine ⟨Or.inr (Or.inr (Or.inr (Or.inl hReads))), ?_⟩
        by_contra hSome
        have hMem := hCount j hSome
        -- it is running only if the tx thread has the request already
        have hTx : s.tx = .registering j := by
          apply (hStarted j (by intro hEq; rw [hEq] at hReads; cases hReads)).2.2
          unfold Pending Rpc.Pending
          rw [if_pos (hUnshared j hMem).1]
          exact Or.inr (Or.inl hMem)
        exact hSound.queued.single j (by rw [hTx]; rfl) hMem
      · obtain ⟨i, hOwner⟩ := hEntry
        refine ⟨Or.inr (Or.inr (Or.inr (Or.inr ⟨i, hOwner⟩))), ?_⟩
        by_contra hSome
        exact hSound.not_mem_of_owner hOwner (hCount j hSome)
    · intro j hj
      by_cases hMem : j ∈ s.rpcTxQ
      · have hPos := List.count_pos_iff.mpr hMem
        have hLe := List.nodup_iff_count_le_one.mp hSound.queued.nodup j
        exact Or.inr (by omega)
      · refine Or.inl ?_
        exact hj.of_caller rfl fun _ _ hTx hEntry => ⟨hMem, hTx, hEntry⟩
  · cases hStep

theorem cleanupTables_ownership (hSound : Sound cfg s) (h : Ownership cfg s)
    (hUnshared : Unshared cfg s .cleanupTables) (hStep : cleanupTables s = some s') :
    Ownership cfg s' := by
  unfold cleanupTables at hStep
  split at hStep
  · -- the entries that point to a request are those in use
    have hEntry : ∀ (i : Nat) (e : Slot AsyncItem) (k : Nat), s.asyncRspTable[i]? = some e →
        (e.item.appReq == some k) = true → owner s.asyncRspTable i = some k := by
      intro i e k he hApp
      have hUid := (hUnshared e (List.mem_of_getElem? he) k (by simpa using hApp)).1
      obtain ⟨j, -, -, rfl⟩ := hSound.tables.asyncUsed i e he hUid
      have hEq : j = k := by simpa [asyncEntry] using hApp
      rw [owner_of_entry he hUid, hEq]
    have hSome : ∀ k, s.asyncRspTable.countP (·.item.appReq == some k) ≠ 0 →
        HasEntry s.asyncRspTable k ∧ s.Released k := by
      intro k hk
      obtain ⟨e, he, hApp⟩ := List.countP_pos_iff.mp (Nat.pos_of_ne_zero hk)
      obtain ⟨i, hi⟩ := List.mem_iff_getElem?.mp he
      exact ⟨⟨i, hEntry i e k hi hApp⟩, (hUnshared e he k (by simpa using hApp)).2⟩
    have hOne : ∀ k, s.asyncRspTable.countP (·.item.appReq == some k) ≤ 1 := by
      intro k
      apply countP_le_one
      intro i j e f hi hj he hf
      exact hSound.tables.owner_inj (hEntry i e k hi he) (hEntry j f k hj hf)
    have hCounted : ∀ k, HasEntry s.asyncRspTable k →
        s.asyncRspTable.countP (·.item.appReq == some k) ≠ 0 := by
      rintro k ⟨i, hOwner⟩
      have hi := (hSound.tables.owner_entry hOwner).2.2
      exact Nat.ne_of_gt
        (List.countP_pos_iff.mpr ⟨_, List.mem_of_getElem? hi, by simp [asyncEntry]⟩)
    cases hStep
    refine ⟨h.good, h.ledger.release _ (fun _ => rfl) hOne
      (fun j hj => Or.inr (Or.inr (Or.inr (Or.inr (hSome j hj).1)))) ?_ ?_, ?_, ?_⟩
    · rintro j (hCaller | hMem | hTx | hTimer | ⟨i, hWiped⟩)
      · have hLive : (s.caller j).done = false := hCaller
        refine ⟨Or.inl hLive, ?_⟩
        by_contra hPos
        rw [(hSome j hPos).2.1] at hLive
        cases hLive
      · refine ⟨Or.inr (Or.inl hMem), ?_⟩
        by_contra hPos
        obtain ⟨i, hOwner⟩ := (hSome j hPos).1
        exact hSound.not_mem_of_owner hOwner hMem
      · refine ⟨Or.inr (Or.inr (Or.inl hTx)), ?_⟩
        by_contra hPos
        exact (hSome j hPos).2.2.1 hTx
      · simp only at hTimer
        split at hTimer
        · cases hTimer
        · rename_i hRuns
          refine ⟨Or.inr (Or.inr (Or.inr (Or.inl hTimer))), ?_⟩
          by_contra hPos
          obtain ⟨⟨i, hOwner⟩, -, -, hExpired⟩ := hSome j hPos
          have hArmed : s.timer j = .armed := TimerPc.armed_of_reads hTimer hExpired
          have hi := (hSound.tables.owner_entry hOwner).2.2
          apply hRuns
          refine ⟨hArmed, List.any_eq_true.mpr ⟨_, List.mem_of_getElem? hi, ?_⟩⟩
          simp [asyncEntry]
      · exact absurd hWiped owner_wiped
    · intro j hj
      by_cases hHas : HasEntry s.asyncRspTable j
      · have hPos := hCounted j hHas
        have hLe := hOne j
        exact Or.inr (by omega)
      · refine Or.inl ?_
        exact hj.of_caller rfl fun _ hMem hTx _ => ⟨hMem, hTx, hHas⟩
    · intro j hTx hAsync
      have hHas := h.sending j hTx hAsync
      refine absurd ?_ (hSome j (hCounted j hHas)).2.2.1
      rcases hTx with hTx | hTx <;> rw [show s.tx = _ from hTx] <;> rfl
    · rintro j ⟨i, hWiped⟩
      exact absurd hWiped owner_wiped
  · cases hStep

theorem cancelThreads_ownership (h : Ownership cfg s)
    (hUnshared : Unshared cfg s .cancelThreads) (hStep : cancelThreads s = some s') :
    Ownership cfg s' := by
  unfold cancelThreads at hStep
  split at hStep
  · have hTx : Ownership cfg { s with tx := .cancelled } := by
      cases hHeld : s.tx.held with
      | none => exact h.setTx hHeld.symm (by simp)
      | some k =>
        apply h.dropTx hHeld rfl
        intro hAsync
        obtain ⟨i, -, hOwner⟩ := hUnshared k hHeld hAsync
        exact ⟨i, hOwner⟩
    cases hStep
    exact { hTx with ledger := hTx.ledger }
  · cases hStep

theorem step_ownership {a : Action} (hSound : Sound cfg s) (hStarted : Started cfg s)
    (h : Ownership cfg s) (hUnshared : Unshared cfg s a) (hStep : step cfg s a = some s') :
    Ownership cfg s' := by
  unfold step at hStep
  split at hStep
  · cases hStep
  · cases a with
    | sendReq => exact sendReq_ownership hSound h hStep
    | setSyncRespSem k createOk => exact setSyncRespSem_ownership h hStep
    | queueTx k ok => exact queueTx_ownership h hStep
    | failReq k => exact hUnshared.elim
    | rpcTxInd k => exact rpcTxInd_ownership h hStep
    | readRspCb k => exact readRspCb_ownership h hStep
    | lookupSem k => exact lookupSem_ownership h hStep
    | takeSem k => exact takeSem_ownership h hStep
    | semTimeout k => exact semTimeout_ownership h hStep
    | clearSync k => exact clearSync_ownership h hStep
    | recvRx k => exact recvRx_ownership h hStep
    | freeReq k => exact freeReq_ownership hSound hStarted h hUnshared hStep
    | txTakeSem => exact txTakeSem_ownership h hStep
    | recvTx => exact recvTx_ownership h hStep
    | composeReq ok => exact composeReq_ownership h hStep
    | startTimer ok => exact startTimer_ownership h hStep
    | setAsyncRespCallback => exact setAsyncRespCallback_ownership hSound h hStep
    | serialSend ok => exact serialSend_ownership h hStep
    | txCleanup => exact txCleanup_ownership h hStep
    | notifyFail callocOk => exact notifyFail_ownership h hStep
    | txPostSync => exact txPostSync_ownership h hStep
    | failCleanup => exact failCleanup_ownership h hStep
    | scanAsync => exact scanAsync_ownership hSound h hUnshared hStep
    | rxClearAsync => exact rxClearAsync_ownership hSound h hUnshared hStep
    | rxPostSync =>
      simp only [rxPostSync] at hStep
      split at hStep
      · have hPosted := h.postSync
        cases hStep
        exact { hPosted _ with ledger := (hPosted _).ledger }
      · cases hStep
    | expire k => exact expire_ownership h hStep
    | timerRead k callocOk => exact timerRead_ownership h hStep
    | timerClear k => exact timerClear_ownership hSound h hUnshared hStep
    | timerCall k => exact timerCall_ownership h hStep
    | drainTx => exact drainTx_ownership hSound hStarted h hUnshared hStep
    | cleanupTables => exact cleanupTables_ownership hSound h hUnshared hStep
    | cancelThreads => exact cancelThreads_ownership h hUnshared hStep
    | recvResp | isAsyncAvailable | callAsync | queueRx | drainRx =>
      simp only [recvResp, isAsyncAvailable, callAsync, queueRx, drainRx] at hStep
      (repeat' split at hStep) <;> cases hStep <;> exact { h with ledger := h.ledger }

theorem init_ownership (cfg : Config) : Ownership cfg (init cfg) := by
  have hEntry : ∀ k, ¬ HasEntry (init cfg).asyncRspTable k := by
    rintro k ⟨i, h⟩
    obtain ⟨e, he, hItem⟩ := Option.bind_eq_some_iff.mp h
    rw [List.eq_of_mem_replicate (List.mem_of_getElem? he)] at hItem
    cases hItem
  refine ⟨rfl, ⟨fun _ _ => rfl, fun _ => Nat.zero_le _, ?_⟩, by simp [init],
    fun k hk => absurd hk (hEntry k)⟩
  intro k hk
  simp [Settled, init, CallerPc.queued, CallerPc.done] at hk

/-! ## Every run -/

/-- A thread, `rpc_tx_q` or an entry has the request. -/
def InFlight (s : Core) (k : Nat) : Prop :=
  (s.caller k).done = false ∨ k ∈ s.rpcTxQ ∨ s.tx.held = some k ∨ HasEntry s.asyncRspTable k

/-- No request was touched after it was freed, or freed twice, and one that nobody has any
more was freed. -/
def FreedOnce (s : Core) : Prop :=
  s.badAccess = false ∧
    ∀ k < s.next, s.freed k ≤ 1 ∧ (¬ s.InFlight k → s.freed k = 1)

theorem settled_of_not_inFlight {k : Nat} (h : ¬ s.InFlight k) : s.Settled cfg k := by
  unfold InFlight at h
  rw [not_or, not_or, not_or] at h
  obtain ⟨hDone, hMem, hHeld, hEntry⟩ := h
  rw [Bool.not_eq_false] at hDone
  cases hPc : s.caller k with
  | failed => exact Or.inl hPc
  | finished resp =>
    refine Or.inr ?_
    rw [hPc]
    split
    · exact ⟨rfl, hMem, hHeld, hEntry⟩
    · rfl
  | _ =>
    rw [hPc] at hDone
    cases hDone

theorem unshared_invariant (cfg : Config) {s : Core}
    (hRun : Reaches (step cfg) (Unshared cfg) (init cfg) s) :
    Sound cfg s ∧ Started cfg s ∧ Ownership cfg s := by
  apply hRun.invariant ⟨init_sound cfg, init_started cfg, init_ownership cfg⟩
  rintro t a t' ⟨hSound, hStarted, hOwn⟩ hUnshared hStep
  exact ⟨step_sound hSound hUnshared.freshUid hStep, step_started hSound hStarted hStep,
    step_ownership hSound hStarted hOwn hUnshared hStep⟩

/-- In a run of `Core` in which a request is freed only when nobody else has it, it is freed
once. -/
theorem freedOnce_of_reaches (cfg : Config) {s : Core}
    (hRun : Reaches (step cfg) (Unshared cfg) (init cfg) s) : FreedOnce s := by
  obtain ⟨-, -, hOwn⟩ := unshared_invariant cfg hRun
  exact ⟨hOwn.good, fun k _ => ⟨hOwn.ledger.once k, fun hFree =>
    hOwn.ledger.settled k (settled_of_not_inFlight hFree)⟩⟩

end Core

/-! ## Every run, with one thread at a table -/

namespace Unlocked

open Rpc.Core

variable {cfg : Config} {u v : Unlocked} {s : Core}

theorem owner_setItem {t : List (Slot AsyncItem)} {i j : Nat} {f : AsyncItem → AsyncItem} :
    owner (setItem t i f) j =
      if i = j then (t[i]?).bind fun e => if e.uid = 0 then none else (f e.item).cb
      else owner t j := by
  unfold owner setItem
  rw [List.getElem?_modify]
  split
  · rename_i hEq
    subst hEq
    cases t[i]? <;> rfl
  · simp

theorem owner_setItem_cb {t : List (Slot AsyncItem)} {i : Nat} {f : AsyncItem → AsyncItem}
    (hCb : ∀ e, (f e).cb = e.cb) : owner (setItem t i f) = owner t := by
  funext j
  rw [owner_setItem]
  split
  · rename_i hEq
    subst hEq
    unfold owner
    simp only [hCb]
  · rfl

theorem owner_setUid {t : List (Slot AsyncItem)} {i j k : Nat}
    (h : owner (setUid t i 0) j = some k) : owner t j = some k := by
  unfold owner setUid at h
  rw [List.getElem?_modify] at h
  split at h
  · obtain ⟨e, he, hNone⟩ := Option.bind_eq_some_iff.mp h
    obtain ⟨f, -, rfl⟩ := Option.map_eq_some_iff.mp he
    cases hNone
  · unfold owner
    simpa using h

/-- What has an entry in the state has one in the memory, or the tx thread has it still. -/
theorem hasEntry_memory {table : List (Slot AsyncItem)} {works : List (Thread × AsyncPc)}
    (h : AsyncRel cfg s table works) {k : Nat} (hEntry : HasEntry s.asyncRspTable k) :
    HasEntry table k ∨ s.tx = .sending k := by
  have hSame (hEq : owner s.asyncRspTable = owner table) :
      HasEntry table k ∨ s.tx = .sending k := by
    left
    unfold HasEntry at hEntry ⊢
    rwa [hEq] at hEntry
  match works with
  | [] => exact hSame (congrArg owner (Eq.symm h))
  | [(t, pc)] =>
    cases pc with
    | setUid i j | callCb i resp | testUid i | stopTimer i | clearTimer i =>
      exact hSame (congrArg owner h.1.symm)
    | setCb i j =>
      obtain ⟨-, hPc, hTable⟩ := h
      obtain ⟨l, hOwner⟩ := hEntry
      rw [hTable, owner_setItem] at hOwner
      split at hOwner
      · obtain ⟨e, -, hCb⟩ := Option.bind_eq_some_iff.mp hOwner
        split at hCb
        · cases hCb
        · cases hCb
          exact .inr hPc
      · exact .inl ⟨l, hOwner⟩
    | setTimer i j | setReq i j =>
      refine hSame ?_
      rw [h.2.2]
      exact owner_setItem_cb fun _ => rfl
    | freeReq i =>
      refine hSame ?_
      rw [h.1, owner_setItem_cb]
      exact fun _ => rfl
    | clearUid i | clearCb i =>
      obtain ⟨l, hOwner⟩ := hEntry
      rw [show s.asyncRspTable = _ from h, owner_setItem] at hOwner
      split at hOwner
      · obtain ⟨e, -, hCb⟩ := Option.bind_eq_some_iff.mp hOwner
        split at hCb <;> cases hCb
      · first
        | exact .inl ⟨l, owner_setUid hOwner⟩
        | exact .inl ⟨l, hOwner⟩
  | _ :: _ :: _ => exact h.elim

/-- What is released in the memory is released in the state. -/
theorem released_state {m : Core} {h : Option Nat} {k : Nat} (hCaller : m.caller = s.caller)
    (hTx : m.tx = s.tx) (hTimer : m.timer = stopTimer s.timer h) (hReleased : Released m k) :
    Released s k := by
  obtain ⟨hDone, hHeld, hNot⟩ := hReleased
  rw [hCaller] at hDone
  rw [hTx] at hHeld
  refine ⟨hDone, hHeld, fun hExpired => ?_⟩
  rw [hTimer] at hNot
  rcases stopTimer_cases s.timer h k with hEq | ⟨-, hArmed, -⟩
  · exact hNot (hEq.trans hExpired)
  · rw [hExpired] at hArmed
    cases hArmed

/-- A request that is in nobody else's hands in the memory is so in the state. -/
theorem unshared_state {act : Act} {b : Action} (hRel : Rel cfg u s) (hAlone : u.Alone act)
    (hb : u.commits cfg act = some b) (h : Unshared cfg u.core b) : Unshared cfg s b := by
  have hMemory := commits_memory hRel hAlone hb
  have hRel' := hRel
  obtain ⟨async, sync, bad, hEq, -, -⟩ := hRel'
  have hCaller : u.core.caller = s.caller := by rw [hEq]; rfl
  have hTx : u.core.tx = s.tx := by rw [hEq]; rfl
  -- where the table is used the memory is that of the state
  have hSame (hUses : b.usesAsync = true) (hOther : ∀ t, clearAction t ≠ some b) :
      u.core.asyncRspTable = s.asyncRspTable ∧ u.core.timer = s.timer :=
    (hMemory hUses).resolve_right fun ⟨⟨t, hClear⟩, _⟩ => hOther t hClear
  -- where an entry is cleared its owner is
  have hOwner (hUses : b.usesAsync = true) : owner u.core.asyncRspTable = owner s.asyncRspTable ∧
      (∀ uid, find u.core.asyncRspTable uid = find s.asyncRspTable uid) ∧
      ∃ h, u.core.timer = stopTimer s.timer h := by
    rcases hMemory hUses with ⟨hTable, hTimer⟩ | ⟨-, i, h, hTable, hTimer⟩
    · rw [hTable]
      exact ⟨rfl, fun _ => rfl, none, hTimer⟩
    · rw [hTable]
      exact ⟨owner_setItem_cb fun _ => rfl, fun _ => find_congr map_uid_setItem, h, hTimer⟩
  cases b with
  | sendReq => exact freshUid_state hRel h.freshUid
  | freeReq k =>
    rw [hEq] at h
    exact h
  | rxClearAsync =>
    obtain ⟨hOwns, -, hdl, hTimer⟩ := hOwner rfl
    have hRx : u.core.rx = s.rx := by rw [hEq]; rfl
    intro i hi k hk
    rw [← hRx] at hi
    rw [← hOwns] at hk
    exact released_state hCaller hTx hTimer (h i hi k hk)
  | timerClear k =>
    obtain ⟨hOwns, hFind, hdl, hTimer⟩ := hOwner rfl
    have hUid : u.core.uidOf = s.uidOf := by rw [hEq]; rfl
    intro i hi j hj
    rw [← hFind, ← hUid] at hi
    rw [← hOwns] at hj
    exact released_state hCaller hTx hTimer (h i hi j hj)
  | scanAsync =>
    obtain ⟨hTable, hTimer⟩ := hSame rfl nofun
    have hUid : u.core.uidOf = s.uidOf := by rw [hEq]; rfl
    intro k hk
    rw [← hTx] at hk
    rw [← hTable, ← hTimer, ← hUid, ← hCaller]
    exact h k hk
  | drainTx =>
    rw [hEq] at h
    exact h
  | cleanupTables =>
    obtain ⟨hTable, hTimer⟩ := hSame rfl nofun
    intro e he k hk
    rw [← hTable] at he
    obtain ⟨hNe, hReleased⟩ := h e he k hk
    exact ⟨hNe, released_state (h := none) hCaller hTx hTimer hReleased⟩
  | cancelThreads =>
    obtain ⟨hTable, -⟩ := hSame rfl nofun
    intro k hk hIs
    rw [← hTx] at hk
    rw [← hTable]
    exact h k hk hIs
  | failReq k => exact h
  | _ => trivial

/-- What is registered has not been freed. -/
theorem registers_not_freed (h : Ownership cfg s) {k : Nat} (hReg : Registers s k) :
    s.freed k = 0 := by
  apply h.ledger.used
  rcases hReg with hPc | hPc | hPc
  · exact .inl (by rw [hPc]; rfl)
  · exact .inl (by rw [hPc]; rfl)
  · exact .inr (.inr (.inl (by rw [hPc]; rfl)))

/-- A run of the memory is a run of `Core`. -/
theorem owned_of_reaches (cfg : Config)
    (hRun : Reaches (step cfg) (Orderly cfg (Unshared cfg)) (init cfg) u) :
    ∃ s, (Rel cfg u s ∧ u.core.badAccess = s.badAccess) ∧
      Reaches (Core.step cfg) (Unshared cfg) (Core.init cfg) s := by
  refine hRun.simulation (R := fun u s => Rel cfg u s ∧ u.core.badAccess = s.badAccess)
    ⟨init_rel cfg, rfl⟩ ?_
  rintro v act w s ⟨hRel, hBad⟩ hReached ⟨hAlone, hGuard⟩ hStep
  obtain ⟨hSound, hStarted, hOwn⟩ := unshared_invariant cfg hReached
  obtain ⟨s', hRel', hDone, hBad', -⟩ := simulates hSound hStarted hRel hAlone hStep
  refine ⟨s', ⟨hRel', hBad' (fun k hReg => registers_not_freed hOwn hReg) hBad⟩, ?_⟩
  cases hCommits : v.commits cfg act with
  | none =>
    rw [hCommits] at hDone
    exact .inl hDone
  | some b =>
    rw [hCommits] at hDone
    exact .inr ⟨b, unshared_state hRel hAlone hCommits (hGuard b hCommits), hDone⟩

/-- The first request is synchronous, the others are not. -/
def oneSync : Config := { maxSync := 5, maxAsync := 5, app := fun k => ⟨257, decide (k ≠ 0)⟩ }

/-- An asynchronous request is sent; its message is `k + 1`. -/
def sendAsync (k : Nat) : List Act :=
  ([.sendReq, .queueTx k true, .rpcTxInd k, .readRspCb k, .txTakeSem, .recvTx, .composeReq true,
    .startTimer true, .setAsyncRespCallback] : List Action).map .act ++
  List.replicate 4 (Act.go .tx) ++ ([.act (.serialSend true), .act .txCleanup] : List Act)

/-- Its response is received. -/
def answerAsync (k : Nat) : List Act :=
  [.act (.recvResp ⟨513, k + 1⟩), .act .isAsyncAvailable, .act .callAsync, .go .rx,
    .act .rxClearAsync, .go .rx, .go .rx, .go .rx]

/-- The rest of `clear_async_resp_callback`, behind its `h_free`. -/
def clearRest : List Act := [.go .rx, .go .rx]

/-- A synchronous request is answered, and freed by its caller while the rx thread clears the entry
of an asynchronous one. -/
def bothAnswered : List Act :=
  ([.act .sendReq, .act (.setSyncRespSem 0 true), .go (.caller 0), .go (.caller 0)] : List Act) ++
  ([.queueTx 0 true, .rpcTxInd 0, .readRspCb 0, .lookupSem 0, .txTakeSem, .recvTx,
    .composeReq true, .serialSend true, .txCleanup, .recvResp ⟨513, 1⟩, .isAsyncAvailable, .queueRx,
    .rxPostSync] : List Action).map .act ++
  ([.go .rx, .act (.takeSem 0), .act (.clearSync 0), .go (.caller 0), .go (.caller 0),
    .act (.recvRx 0)] : List Act) ++
  sendAsync 1 ++ answerAsync 1 ++ ([.act (.freeReq 0)] : List Act) ++ clearRest

def deinitCore : List Act :=
  [.act .drainRx, .act .drainTx, .act .cleanupTables, .act .cancelThreads]

/-- The rx thread and the timer are in `clear_async_resp_callback` at once, and both free the
request. -/
def overlap : List Act :=
  ([.act .sendReq] : List Act) ++ sendAsync 1 ++
  ([.act (.expire 1), .act (.timerRead 1 true), .act (.recvResp ⟨513, 2⟩), .act .isAsyncAvailable,
    .act .callAsync, .go .rx, .act .rxClearAsync, .act (.timerClear 1), .go .rx, .go .rx, .go .rx,
    .go (.timer 1), .go (.timer 1), .go (.timer 1), .go (.timer 1)] : List Act)

example : (runGuarded (step oneSync) (fun u a => ∀ b ∈ u.commits oneSync a,
    Unshared oneSync u.core b) (init oneSync) overlap).map (fun u => u.core.freed 1) = some 2 := by
  decide +kernel

end Unlocked

end EspHosted.Rpc
