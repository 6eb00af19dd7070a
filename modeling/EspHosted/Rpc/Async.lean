import EspHosted.Rpc.Tables

/-!
# Asynchronous requests

What the threads do to `async_rsp_table`, to the timers and to the callbacks. Most steps only
move a thread on: `Frame` says what they may change, and `step_frame` that they change nothing
else. The other steps are those of `process_rpc_tx_msg`, of a callback, of a timer and of
`cleanup_sync_async_timer_table`.

* `step_started`: a timer is started for a request that the tx thread holds, and for no other;
* `step_calls`: while every send succeeds and no timer expires before its callback is
  registered, an entry in use belongs to a request whose callback was not called yet.
-/

namespace EspHosted.Rpc

open Slots Machine

/-! ## Entries in use -/

/-- The request that entry `i` of `async_rsp_table` is in use for. -/
def owner (t : List (Slot AsyncItem)) (i : Nat) : Option Nat :=
  (t[i]?).bind fun e => if e.uid = 0 then none else e.item.cb

theorem owner_of_entry {t : List (Slot AsyncItem)} {uidOf : Nat → Nat} {i k : Nat}
    (h : t[i]? = some (asyncEntry uidOf k)) (hNe : uidOf k ≠ 0) : owner t i = some k := by
  unfold owner
  rw [h]
  simp [asyncEntry, hNe]

theorem owner_set {t : List (Slot AsyncItem)} {i j k : Nat} {e : Slot AsyncItem}
    (h : owner (t.set i e) j = some k) :
    (j = i ∧ e.item.cb = some k) ∨ (j ≠ i ∧ owner t j = some k) := by
  obtain ⟨f, hf, hOwner⟩ := Option.bind_eq_some_iff.mp h
  rcases getElem?_set_cases hf with ⟨rfl, rfl⟩ | ⟨hNe, hf⟩
  · split at hOwner
    · cases hOwner
    · exact Or.inl ⟨rfl, hOwner⟩
  · refine Or.inr ⟨hNe, ?_⟩
    unfold owner
    rw [hf]
    exact hOwner

theorem owner_set_ne {t : List (Slot AsyncItem)} {i j : Nat} {e : Slot AsyncItem} (hNe : j ≠ i) :
    owner (t.set i e) j = owner t j := by
  unfold owner
  rw [List.getElem?_set_ne hNe.symm]

theorem owner_free {t : List (Slot AsyncItem)} {i : Nat} {e : Slot AsyncItem}
    (h : t[i]? = some e) (hFree : e.uid = 0) : owner t i = none := by
  unfold owner
  rw [h]
  simp [hFree]

theorem owner_wiped {t : List (Slot AsyncItem)} {item : AsyncItem} {i k : Nat} :
    owner (t.map fun _ => ⟨0, item⟩) i ≠ some k := by
  intro h
  obtain ⟨e, he, hOwner⟩ := Option.bind_eq_some_iff.mp h
  rw [if_pos (Tables.uid_of_mem_wiped (List.mem_of_getElem? he))] at hOwner
  cases hOwner

/-- The request has an entry. -/
def HasEntry (t : List (Slot AsyncItem)) (k : Nat) : Prop := ∃ i, owner t i = some k

namespace Tables

variable {cfg : Config} {next : Nat} {uidOf : Nat → Nat} {sync : List (Slot (Option Nat))}
  {async : List (Slot AsyncItem)} {P : Nat → Prop}

theorem owner_entry (h : Tables cfg next uidOf sync async P) {i k : Nat}
    (hOwner : owner async i = some k) :
    k < next ∧ (cfg.app k).async = true ∧ async[i]? = some (asyncEntry uidOf k) := by
  obtain ⟨e, he, hItem⟩ := Option.bind_eq_some_iff.mp hOwner
  split at hItem
  · cases hItem
  · rename_i hNe
    obtain ⟨j, hj, hAsync, rfl⟩ := h.asyncUsed i e he hNe
    cases hItem
    exact ⟨hj, hAsync, he⟩

theorem owner_find (h : Tables cfg next uidOf sync async P) {i k : Nat}
    (hOwner : owner async i = some k) : find async (uidOf k) = some i := by
  obtain ⟨hk, -, hEntry⟩ := h.owner_entry hOwner
  exact h.asyncDistinct.find_eq hEntry (h.uid k hk)

theorem owner_of_find (h : Tables cfg next uidOf sync async P) {i u : Nat} (hNe : u ≠ 0)
    (hFind : find async u = some i) : ∃ k, owner async i = some k ∧ uidOf k = u := by
  obtain ⟨k, hk, -, hUid, hEntry⟩ := h.find_async hNe hFind
  exact ⟨k, owner_of_entry hEntry (h.uid k hk), hUid⟩

theorem owner_inj (h : Tables cfg next uidOf sync async P) {i j k : Nat}
    (hi : owner async i = some k) (hj : owner async j = some k) : i = j := by
  have hFind := h.owner_find hi
  rw [h.owner_find hj] at hFind
  cases hFind
  rfl

theorem owner_not_pending (h : Tables cfg next uidOf sync async P) {i k : Nat}
    (hOwner : owner async i = some k) : ¬ P k := by
  intro hPending
  have hEntry := (h.owner_entry hOwner).2.2
  exact h.pending_async hPending hEntry

end Tables

namespace Core

variable {cfg : Config} {s s' : Core}

theorem stopTimer_cases (timer : Nat → TimerPc) (hdl : Option Nat) (k : Nat) :
    stopTimer timer hdl k = timer k ∨
      (hdl = some k ∧ timer k = .armed ∧ stopTimer timer hdl k = .over) := by
  unfold stopTimer
  split
  · exact Or.inl rfl
  · rename_i j
    split
    · rename_i hArmed
      by_cases hEq : k = j
      · subst hEq
        exact Or.inr ⟨rfl, hArmed, Function.update_self ..⟩
      · exact Or.inl (Function.update_of_ne hEq ..)
    · exact Or.inl rfl

theorem stopTimer_of_ne {timer : Nat → TimerPc} {k : Nat} (h : timer k ≠ .armed) :
    stopTimer timer (some k) = timer := if_neg h

/-- A timer that is not over was not stopped. -/
theorem stopTimer_eq {timer : Nat → TimerPc} {hdl : Option Nat} {k : Nat}
    (h : stopTimer timer hdl k ≠ .over) : stopTimer timer hdl k = timer k :=
  (stopTimer_cases timer hdl k).resolve_right fun hStop => h hStop.2.2

/-- An entry that is cleared belonged to a request, or there was nothing to clear. -/
theorem Sound.clearAsync_spec (h : Sound cfg s) (i : Nat) :
    (owner s.asyncRspTable i = none ∧ s.clearAsyncRespCallback i = s) ∨
      ∃ k, owner s.asyncRspTable i = some k ∧
        s.clearAsyncRespCallback i = { s with
          timer := stopTimer s.timer (some k)
          freed := Function.update s.freed k (s.freed k + 1)
          asyncRspTable := s.asyncRspTable.set i ⟨0, none, none, some k⟩ } := by
  unfold clearAsyncRespCallback
  cases hEntry : s.asyncRspTable[i]? with
  | none => exact Or.inl ⟨by simp [owner, hEntry], rfl⟩
  | some e =>
    by_cases hUid : e.uid = 0
    · exact Or.inl ⟨owner_free hEntry hUid, by simp [hUid]⟩
    · obtain ⟨k, hk, -, rfl⟩ := h.tables.asyncUsed i e hEntry hUid
      refine Or.inr ⟨k, owner_of_entry hEntry hUid, ?_⟩
      simp only [if_neg hUid]
      rfl

/-- The other entries stay what they were. -/
theorem Sound.owner_cleared (h : Sound cfg s) {i j k : Nat}
    (hOwner : owner (s.clearAsyncRespCallback i).asyncRspTable j = some k) :
    j ≠ i ∧ owner s.asyncRspTable j = some k := by
  rcases h.clearAsync_spec i with ⟨hNone, hEq⟩ | ⟨l, -, hEq⟩
  · rw [hEq] at hOwner
    refine ⟨?_, hOwner⟩
    rintro rfl
    rw [hNone] at hOwner
    cases hOwner
  · rw [hEq] at hOwner
    rcases owner_set hOwner with ⟨-, hCb⟩ | hRest
    · cases hCb
    · exact hRest

end Core

/-! ## Steps that only move a thread on -/

/-- The tx thread has yet to register a callback for the request, or to call it. -/
def TxPc.owing : TxPc → Option Nat
  | .notifying k => some k
  | tx => tx.early

/-- The entry in the hands of the rx thread. -/
def RxPc.clears : RxPc → Option Nat
  | .clearing i => some i
  | _ => none

/-- The callback of entry `i` was called already, or the rx thread will call none any more. -/
def RxPc.spent (i : Nat) : RxPc → Bool
  | .clearing j => j == i
  | .cancelled => true
  | _ => false

/-- The rx thread is not inside `call_async_resp_callback`, and can still get there. -/
def RxPc.free : RxPc → Bool
  | .clearing _ | .cancelled => false
  | _ => true

theorem RxPc.not_spent {rx : RxPc} (h : rx.free = true) (i : Nat) : rx.spent i = false := by
  cases rx <;> first | rfl | cases h

/-- `rpc_async_timeout_handler` is running. -/
def TimerPc.running : TimerPc → Bool
  | .expired | .clearing | .calling => true
  | _ => false

namespace Core

variable {cfg : Config} {s s' : Core}

structure Frame (cfg : Config) (s s' : Core) : Prop where
  next : s.next ≤ s'.next
  async : s'.asyncRspTable = s.asyncRspTable
  timer : s'.timer = s.timer
  cbCalls : s'.cbCalls = s.cbCalls
  queued : ∀ k, (s.caller k).queued = true → (s'.caller k).queued = true
  accepted : ∀ k, (s'.caller k).queued = true → (s.caller k).queued = true ∨ k ∈ s'.rpcTxQ
  pending : ∀ k, s'.Pending cfg k → s.Pending cfg k ∨ s.next ≤ k
  rpcTxQ : ∀ k ∈ s.rpcTxQ, k ∈ s'.rpcTxQ ∨ s'.tx = .composing k ∨ s'.deinit ≠ .none
  tx : s'.tx = s.tx ∨ (s.tx.owing = none ∧ ∀ k, s'.tx.owing = some k → s'.tx = .composing k)
  rx : s'.rx = s.rx ∨ (s.rx.free = true ∧ s'.rx.free = true)
  deinit : s.deinit ≠ .none → s'.deinit ≠ .none

theorem queued_update {caller : Nat → CallerPc} {j k : Nat} {pc : CallerPc}
    (hPc : (caller k).queued = false ∨ pc.queued = true) (h : (caller j).queued = true) :
    (Function.update caller k pc j).queued = true := by
  by_cases hEq : j = k
  · subst hEq
    rw [Function.update_self]
    apply hPc.resolve_left
    rw [h]
    decide
  · rwa [Function.update_of_ne hEq]

theorem queued_of_update {caller : Nat → CallerPc} {j k : Nat} {pc : CallerPc}
    (h : (Function.update caller k pc j).queued = true) :
    (j = k ∧ pc.queued = true) ∨ (caller j).queued = true := by
  by_cases hEq : j = k
  · subst hEq
    rw [Function.update_self] at h
    exact Or.inl ⟨rfl, h⟩
  · rw [Function.update_of_ne hEq] at h
    exact Or.inr h

namespace Frame

theorem refl (cfg : Config) (s : Core) : Frame cfg s s :=
  ⟨Nat.le_refl _, rfl, rfl, rfl, fun _ => id, fun _ => Or.inl, fun _ => Or.inl, fun _ => Or.inl,
    Or.inl rfl, Or.inl rfl, id⟩

theorem setCaller {k : Nat} {pc : CallerPc} (hQueued : pc.queued = (s.caller k).queued)
    (hQ : pc ≠ .queueing) (hR : pc ≠ .registering) : Frame cfg s (s.setCaller k pc) :=
  { refl cfg s with
    queued := fun j hj => queued_update (by rw [hQueued]; cases (s.caller k).queued <;> simp) hj
    accepted := fun j hj => by
      rcases queued_of_update hj with ⟨rfl, hNew⟩ | hj
      · exact Or.inl (hQueued ▸ hNew)
      · exact Or.inl hj
    pending := fun j hj => Or.inl (Pending.of_move hQ hR hj) }

theorem setTx {tx : TxPc} (hOld : s.tx.owing = none) (hEarly : tx.early = none)
    (hNew : tx.owing = none) : Frame cfg s { s with tx } :=
  { refl cfg s with
    pending := fun j hj => by
      unfold Pending at hj
      simp only [hEarly] at hj
      exact Or.inl hj.of_release
    rpcTxQ := fun j hj => Or.inl hj
    tx := Or.inr ⟨hOld, fun k hk => by rw [hNew] at hk; cases hk⟩ }

theorem setRx {rx : RxPc} (hOld : s.rx.free = true) (hNew : rx.free = true) :
    Frame cfg s { s with rx } :=
  { refl cfg s with rx := Or.inr ⟨hOld, hNew⟩ }

end Frame

theorem sendReq_frame (hSound : Sound cfg s) (hStep : sendReq cfg s = some s') :
    Frame cfg s s' := by
  have hBorn := hSound.queued.born s.next (Nat.le_refl _)
  cases hStep
  exact { Frame.refl cfg s with
    next := Nat.le_succ _
    queued := fun j hj => queued_update (Or.inl (by rw [hBorn]; rfl)) hj
    accepted := fun j hj => by
      rcases queued_of_update hj with ⟨-, hNew⟩ | hj
      · split at hNew <;> cases hNew
      · exact Or.inl hj
    pending := fun j hj => by
      by_cases hEq : j = s.next
      · exact Or.inr (Nat.le_of_eq hEq.symm)
      · unfold Pending Rpc.Pending at hj ⊢
        simp only [Function.update_of_ne hEq] at hj
        exact Or.inl hj }

theorem setSyncRespSem_frame {createOk : Bool} {k : Nat} (hSound : Sound cfg s)
    (hStep : setSyncRespSem cfg createOk k s = some s') : Frame cfg s s' := by
  unfold setSyncRespSem at hStep
  split at hStep
  · rename_i hPc
    have hFail : Frame cfg s (s.setCaller k .failing) :=
      .setCaller (by rw [hPc]; rfl) (by simp) (by simp)
    split at hStep
    · cases hStep
      exact { hFail with }
    · split at hStep
      · cases hStep
        exact { hFail with }
      · cases hStep
        have hSync : (cfg.app k).async = false := hSound.kind k (by rw [hPc]; rfl)
        exact { hFail with
          queued := fun j hj => queued_update (Or.inl (congrArg CallerPc.queued hPc)) hj
          accepted := fun j hj => by
            rcases queued_of_update hj with ⟨-, hNew⟩ | hj
            · cases hNew
            · exact Or.inl hj
          pending := fun j hj => by
            by_cases hEq : j = k
            · subst hEq
              unfold Pending Rpc.Pending at hj
              simp [Core.setCaller, hSync] at hj
            · unfold Pending Rpc.Pending at hj ⊢
              simp only [Core.setCaller, Function.update_of_ne hEq] at hj
              exact Or.inl hj }
  · cases hStep

theorem queueTx_frame {ok : Bool} {k : Nat} (hStep : queueTx ok k s = some s') :
    Frame cfg s s' := by
  unfold queueTx at hStep
  split at hStep
  · rename_i hPc
    split at hStep
    · split at hStep
      · cases hStep
        exact { Frame.refl cfg s with
          queued := fun j hj => queued_update (Or.inl (by rw [hPc]; rfl)) hj
          accepted := fun j hj => by
            rcases queued_of_update hj with ⟨hEq, -⟩ | hj
            · exact Or.inr (List.mem_append_right _ (List.mem_singleton.mpr hEq))
            · exact Or.inl hj
          pending := fun j hj => Or.inl (Pending.of_enqueue hPc hj)
          rpcTxQ := fun j hj => Or.inl (List.mem_append_left _ hj) }
      · cases hStep
    · cases hStep
      exact .setCaller (by rw [hPc]; rfl) (by simp) (by simp)
  · cases hStep

theorem failReq_frame {k : Nat} (hStep : failReq k s = some s') : Frame cfg s s' := by
  obtain ⟨hPc, rfl⟩ := failReq_some hStep
  have hMove : Frame cfg s (s.setCaller k .failed) :=
    .setCaller (by rw [hPc]; rfl) (by simp) (by simp)
  exact { hMove with }

/-- A thread behind `rpc_send_req`'s queue goes on. -/
theorem move_frame {k : Nat} {pc : CallerPc} (hOld : (s.caller k).queued = true)
    (hNew : pc.queued = true) : Frame cfg s (s.setCaller k pc) := by
  apply Frame.setCaller (hNew.trans hOld.symm)
  · rintro rfl
    cases hNew
  · rintro rfl
    cases hNew

theorem rpcTxInd_frame {k : Nat} (hStep : rpcTxInd cfg k s = some s') : Frame cfg s s' := by
  unfold rpcTxInd at hStep
  split at hStep
  · rename_i hPc
    have hMove : Frame cfg s (s.setCaller k .returned) := move_frame (by rw [hPc]; rfl) rfl
    cases hStep
    exact { hMove with }
  · cases hStep

theorem readRspCb_frame {k : Nat} (hStep : readRspCb cfg k s = some s') : Frame cfg s s' := by
  unfold readRspCb at hStep
  split at hStep
  · rename_i hPc
    have hMove : ∀ pc : CallerPc, pc.queued = true → Frame cfg s (s.setCaller k pc) :=
      fun pc hNew => move_frame (by rw [hPc]; rfl) hNew
    cases hStep
    cases (cfg.app k).async with
    | true => exact { hMove (.finished none) rfl with }
    | false => exact { hMove .lookup rfl with }
  · cases hStep

theorem lookupSem_frame {k : Nat} (hStep : lookupSem cfg k s = some s') : Frame cfg s s' := by
  unfold lookupSem at hStep
  split at hStep
  · rename_i hPc
    have hMove : ∀ pc : CallerPc, pc.queued = true → Frame cfg s (s.setCaller k pc) :=
      fun pc hNew => move_frame (by rw [hPc]; rfl) hNew
    split at hStep
    · cases hStep
      exact { hMove _ rfl with }
    · split at hStep
      · cases hStep
        exact { hMove _ rfl with }
      · cases hStep
        exact { hMove (.waiting _ _) rfl with }
  · cases hStep

theorem takeSem_frame {k : Nat} (hStep : takeSem k s = some s') : Frame cfg s s' := by
  unfold takeSem at hStep
  split at hStep
  · rename_i i j hPc
    split at hStep
    · have hMove : Frame cfg s (s.setCaller k (.taken i true)) :=
        move_frame (by rw [hPc]; rfl) rfl
      cases hStep
      exact { hMove with }
    · cases hStep
  · cases hStep

theorem semTimeout_frame {k : Nat} (hStep : semTimeout k s = some s') : Frame cfg s s' := by
  unfold semTimeout at hStep
  split at hStep
  · rename_i i sem hPc
    split at hStep
    · cases hStep
    · cases hStep
      exact move_frame (by rw [hPc]; rfl) rfl
  · cases hStep

theorem clearSync_frame {k : Nat} (hStep : clearSync k s = some s') : Frame cfg s s' := by
  unfold clearSync at hStep
  split at hStep
  · rename_i i ok hPc
    have hMove : Frame cfg s (s.setCaller k (if ok then .receiving else .freeing none)) := by
      cases ok <;> exact move_frame (by rw [hPc]; rfl) rfl
    cases hStep
    exact { hMove with }
  · cases hStep

theorem recvRx_frame {k : Nat} (hStep : recvRx k s = some s') : Frame cfg s s' := by
  unfold recvRx at hStep
  split at hStep
  · rename_i hPc
    have hMove : ∀ resp, Frame cfg s (s.setCaller k (.freeing resp)) :=
      fun resp => move_frame (by rw [hPc]; rfl) rfl
    split at hStep
    · split at hStep
      · cases hStep
      · rename_i resp rest hQueue
        have hTaken := hMove (some resp)
        cases hStep
        exact { hTaken with }
    · cases hStep
      exact hMove none
  · cases hStep

theorem freeReq_frame {k : Nat} (hStep : freeReq k s = some s') : Frame cfg s s' := by
  unfold freeReq at hStep
  split at hStep
  · rename_i resp hPc
    have hMove : Frame cfg s (s.setCaller k (.finished resp)) :=
      move_frame (by rw [hPc]; rfl) rfl
    cases hStep
    exact { hMove with }
  · cases hStep

theorem txTakeSem_frame (hStep : txTakeSem s = some s') : Frame cfg s s' := by
  unfold txTakeSem at hStep
  split at hStep
  · rename_i hPc
    have hMove : Frame cfg s { s with tx := .dequeuing } :=
      .setTx (by rw [hPc.1]; rfl) rfl rfl
    cases hStep
    exact { hMove with }
  · cases hStep

theorem recvTx_frame (hStep : recvTx s = some s') : Frame cfg s s' := by
  unfold recvTx at hStep
  split at hStep
  · rename_i hPc
    have hOld : s.tx.owing = none := by rw [hPc]; rfl
    split at hStep
    · split at hStep
      · cases hStep
      · rename_i k rest hQueue
        cases hStep
        exact { Frame.refl cfg s with
          accepted := fun j hj => Or.inl hj
          pending := fun j hj => by
            have hFront := Pending.of_dequeue hj
            unfold Pending
            rw [hPc, hQueue]
            exact Or.inl hFront
          rpcTxQ := fun j hj => by
            rw [hQueue] at hj
            rcases List.mem_cons.mp hj with rfl | hj
            · exact Or.inr (Or.inl rfl)
            · exact Or.inl hj
          tx := Or.inr ⟨hOld, fun j hj => by cases hj; rfl⟩ }
    · cases hStep
      exact .setTx hOld rfl rfl
  · cases hStep

theorem txCleanup_frame (hStep : txCleanup s = some s') : Frame cfg s s' := by
  unfold txCleanup at hStep
  split at hStep
  · rename_i k hPc
    have hMove : Frame cfg s { s with tx := .idle } := .setTx (by rw [hPc]; rfl) rfl rfl
    cases hStep
    exact { hMove with }
  · cases hStep

theorem txPostSync_frame (hStep : txPostSync s = some s') : Frame cfg s s' := by
  unfold txPostSync at hStep
  split at hStep
  · rename_i k resp hPc
    obtain ⟨sem, woken, fault, hEq⟩ := postSyncRespSem_frame resp s
    have hMove : Frame cfg s { s with tx := .failCleaning k } :=
      .setTx (by rw [hPc]; rfl) rfl rfl
    rw [hEq] at hStep
    cases hStep
    exact { hMove with }
  · cases hStep

theorem failCleanup_frame (hStep : failCleanup cfg s = some s') : Frame cfg s s' := by
  unfold failCleanup at hStep
  split at hStep
  · rename_i k hPc
    have hOld : s.tx.owing = none := by rw [hPc]; rfl
    have hScan : Frame cfg s { s with tx := .scanning k } := .setTx hOld rfl rfl
    have hIdle : Frame cfg s { s with tx := .idle } := .setTx hOld rfl rfl
    cases hStep
    cases (cfg.app k).async with
    | true => exact { hScan with }
    | false => exact { hIdle with }
  · cases hStep

theorem scanAsync_frame (hStep : scanAsync s = some s') : Frame cfg s s' := by
  unfold scanAsync at hStep
  split at hStep
  · rename_i k hPc
    have hMove : Frame cfg s { s with tx := .idle } := .setTx (by rw [hPc]; rfl) rfl rfl
    split at hStep
    · cases hStep
      exact { hMove with }
    · cases hStep
      exact { hMove with }
  · cases hStep

theorem recvResp_frame {resp : Resp} (hStep : recvResp resp s = some s') : Frame cfg s s' := by
  unfold recvResp at hStep
  split at hStep
  · rename_i hPc
    cases hStep
    exact .setRx (by rw [hPc]; rfl) rfl
  · cases hStep

theorem isAsyncAvailable_frame (hStep : isAsyncAvailable s = some s') : Frame cfg s s' := by
  unfold isAsyncAvailable at hStep
  split at hStep
  · rename_i resp hPc
    split at hStep
    · cases hStep
      exact .setRx (by rw [hPc]; rfl) rfl
    · cases hStep
      exact .setRx (by rw [hPc]; rfl) rfl
  · cases hStep

theorem queueRx_frame (hStep : queueRx s = some s') : Frame cfg s s' := by
  unfold queueRx at hStep
  split at hStep
  · rename_i resp hPc
    have hMove : ∀ rx : RxPc, rx.free = true → Frame cfg s { s with rx } :=
      fun rx hNew => .setRx (by rw [hPc]; rfl) hNew
    split at hStep
    · cases hStep
      exact hMove _ rfl
    · split at hStep
      · cases hStep
        exact { hMove (.posting resp) rfl with }
      · cases hStep
  · cases hStep

theorem rxPostSync_frame (hStep : rxPostSync s = some s') : Frame cfg s s' := by
  unfold rxPostSync at hStep
  split at hStep
  · rename_i resp hPc
    obtain ⟨sem, woken, fault, hEq⟩ := postSyncRespSem_frame resp s
    have hMove : Frame cfg s { s with rx := .idle } := .setRx (by rw [hPc]; rfl) rfl
    rw [hEq] at hStep
    cases hStep
    exact { hMove with }
  · cases hStep

theorem drainRx_frame (hStep : drainRx s = some s') : Frame cfg s s' := by
  unfold drainRx at hStep
  split at hStep
  · cases hStep
    exact { Frame.refl cfg s with
      rpcTxQ := fun j hj => Or.inl hj
      deinit := fun _ => nofun }
  · cases hStep

theorem drainTx_frame (hStep : drainTx s = some s') : Frame cfg s s' := by
  unfold drainTx at hStep
  split at hStep
  · cases hStep
    exact { Frame.refl cfg s with
      pending := fun j hj => Or.inl (Pending.of_drain hj)
      accepted := fun j hj => Or.inl hj
      rpcTxQ := fun j _ => Or.inr (Or.inr nofun)
      deinit := fun _ => nofun }
  · cases hStep

/-- Steps that neither register nor clear an entry of `async_rsp_table`, nor touch a timer,
nor call a callback. -/
def Action.quiet : Action → Bool
  | .composeReq _ | .startTimer _ | .setAsyncRespCallback | .serialSend _ | .notifyFail _
  | .callAsync | .rxClearAsync | .expire _ | .timerRead .. | .timerClear _ | .timerCall _
  | .cleanupTables | .cancelThreads => false
  | _ => true

theorem step_frame {a : Action} (hSound : Sound cfg s) (hQuiet : Action.quiet a = true)
    (hStep : step cfg s a = some s') : Frame cfg s s' := by
  unfold step at hStep
  split at hStep
  · cases hStep
  · cases a with
    | sendReq => exact sendReq_frame hSound hStep
    | setSyncRespSem k createOk => exact setSyncRespSem_frame hSound hStep
    | queueTx k ok => exact queueTx_frame hStep
    | failReq k => exact failReq_frame hStep
    | rpcTxInd k => exact rpcTxInd_frame hStep
    | readRspCb k => exact readRspCb_frame hStep
    | lookupSem k => exact lookupSem_frame hStep
    | takeSem k => exact takeSem_frame hStep
    | semTimeout k => exact semTimeout_frame hStep
    | clearSync k => exact clearSync_frame hStep
    | recvRx k => exact recvRx_frame hStep
    | freeReq k => exact freeReq_frame hStep
    | txTakeSem => exact txTakeSem_frame hStep
    | recvTx => exact recvTx_frame hStep
    | txCleanup => exact txCleanup_frame hStep
    | txPostSync => exact txPostSync_frame hStep
    | failCleanup => exact failCleanup_frame hStep
    | scanAsync => exact scanAsync_frame hStep
    | recvResp resp => exact recvResp_frame hStep
    | isAsyncAvailable => exact isAsyncAvailable_frame hStep
    | queueRx => exact queueRx_frame hStep
    | rxPostSync => exact rxPostSync_frame hStep
    | drainRx => exact drainRx_frame hStep
    | drainTx => exact drainTx_frame hStep
    | composeReq | startTimer | setAsyncRespCallback | serialSend | notifyFail | callAsync
    | rxClearAsync | expire | timerRead | timerClear | timerCall | cleanupTables
    | cancelThreads => cases hQuiet

/-! ## Timers -/

/-- A timer that was started belongs to an asynchronous request that the tx thread has taken,
and that is registered by now or in the hands of the tx thread. -/
def Started (cfg : Config) (s : Core) : Prop :=
  ∀ k, s.timer k ≠ .unarmed → (cfg.app k).async = true ∧ (s.caller k).queued = true ∧
    (s.Pending cfg k → s.tx = .registering k)

/-- The tx thread has left the registration of the request behind. -/
theorem Sound.not_pending_of_held (hSound : Sound cfg s) {k : Nat}
    (hHeld : s.tx.held = some k) (hAsync : (cfg.app k).async = true) :
    ¬ Rpc.Pending cfg s.caller s.rpcTxQ none k := by
  have hQueued := hSound.queued.queued k (Or.inr hHeld)
  intro hPending
  unfold Rpc.Pending at hPending
  rw [if_pos hAsync] at hPending
  rcases hPending with hPc | hMem | hNone
  · rw [hPc] at hQueued
    cases hQueued
  · exact hSound.queued.single k hHeld hMem
  · cases hNone

/-- Pending requests when the tx thread goes on. -/
theorem pending_setTx {tx : TxPc} (hEarly : tx.early = s.tx.early ∨ tx.early = none) {k : Nat}
    (h : Pending cfg { s with tx } k) : s.Pending cfg k := by
  unfold Pending at h ⊢
  rcases hEarly with hEq | hEq
  · simpa only [hEq] using h
  · simp only [hEq] at h
    exact h.of_release

namespace Started

theorem setTx (h : Started cfg s) (hSound : Sound cfg s) {tx : TxPc}
    (hTx : tx.early = none ∨ (tx.early = s.tx.early ∧ ∀ k, s.tx ≠ .registering k)) :
    Started cfg { s with tx } := by
  intro k hk
  obtain ⟨hAsync, hQueued, hPc⟩ := h k hk
  refine ⟨hAsync, hQueued, fun hPending => ?_⟩
  rcases hTx with hNone | ⟨hSame, hNot⟩
  · have hHeld : s.tx.held = some k := by
      rw [hPc (pending_setTx (Or.inr hNone) hPending)]
      rfl
    unfold Pending at hPending
    simp only [hNone] at hPending
    exact absurd hPending (hSound.not_pending_of_held hHeld hAsync)
  · exact absurd (hPc (pending_setTx (Or.inl hSame) hPending)) (hNot k)

/-- Timers that were started go on. -/
theorem setTimer (h : Started cfg s) {timer : Nat → TimerPc}
    (hOld : ∀ k, timer k ≠ .unarmed → s.timer k ≠ .unarmed) : Started cfg { s with timer } :=
  fun k hk => h k (hOld k hk)

theorem update (h : Started cfg s) {k : Nat} {pc : TimerPc} (hk : s.timer k ≠ .unarmed) :
    Started cfg { s with timer := Function.update s.timer k pc } := by
  apply h.setTimer
  intro j hj
  by_cases hEq : j = k
  · rwa [hEq]
  · rwa [Function.update_of_ne hEq] at hj

theorem clearAsync (h : Started cfg s) (hSound : Sound cfg s) (i : Nat) :
    Started cfg (s.clearAsyncRespCallback i) := by
  rcases hSound.clearAsync_spec i with ⟨-, hEq⟩ | ⟨k, -, hEq⟩
  · rwa [hEq]
  · rw [hEq]
    apply h.setTimer
    intro j hj
    rcases stopTimer_cases s.timer (some k) j with hSame | ⟨-, hArmed, -⟩
    · rwa [hSame] at hj
    · rw [hArmed]
      decide

theorem frame (h : Started cfg s) (hSound : Sound cfg s) (hFrame : Frame cfg s s') :
    Started cfg s' := by
  intro k hk
  rw [hFrame.timer] at hk
  obtain ⟨hAsync, hQueued, hPc⟩ := h k hk
  refine ⟨hAsync, hFrame.queued k hQueued, fun hPending => ?_⟩
  have hLt : k < s.next := by
    apply hSound.queued.lt_next
    intro hUnborn
    rw [hUnborn] at hQueued
    cases hQueued
  rcases hFrame.pending k hPending with hPending | hLe
  · have hOld := hPc hPending
    rcases hFrame.tx with hSame | ⟨hNone, -⟩
    · rw [hSame, hOld]
    · rw [hOld] at hNone
      cases hNone
  · omega

end Started

theorem startTimer_started {ok : Bool} (hSound : Sound cfg s) (h : Started cfg s)
    (hStep : startTimer ok s = some s') : Started cfg s' := by
  unfold startTimer at hStep
  split at hStep
  · rename_i k hPc
    split at hStep
    · cases hStep
      intro j hj
      by_cases hEq : j = k
      · subst hEq
        exact ⟨hSound.timed j (by rw [hPc]; rfl),
          hSound.queued.queued j (Or.inr (by rw [hPc]; rfl)), fun _ => rfl⟩
      · simp only [Function.update_of_ne hEq] at hj
        have hTx : Started cfg { s with tx := .registering k } :=
          h.setTx hSound (Or.inr ⟨by rw [hPc]; rfl, by simp [hPc]⟩)
        exact hTx j hj
    · cases hStep
      have hTx : Started cfg { s with tx := .notifying k } := h.setTx hSound (Or.inl rfl)
      exact hTx
  · cases hStep

theorem composeReq_started {ok : Bool} (hSound : Sound cfg s) (h : Started cfg s)
    (hStep : composeReq cfg ok s = some s') : Started cfg s' := by
  unfold composeReq at hStep
  split at hStep
  · rename_i k hPc
    cases hStep
    refine h.setTx hSound ?_
    cases ok with
    | false => exact Or.inl rfl
    | true =>
      cases (cfg.app k).async with
      | false => exact Or.inl rfl
      | true => exact Or.inr ⟨by rw [hPc]; rfl, by simp [hPc]⟩
  · cases hStep

theorem setAsyncRespCallback_started (hSound : Sound cfg s) (h : Started cfg s)
    (hStep : setAsyncRespCallback cfg s = some s') : Started cfg s' := by
  unfold setAsyncRespCallback at hStep
  split at hStep
  · rename_i k hPc
    have hTx : ∀ tx : TxPc, tx.early = none → Started cfg { s with tx } :=
      fun tx hNone => h.setTx hSound (Or.inl hNone)
    split at hStep
    · cases hStep
      exact hTx (.notifying k) rfl
    · split at hStep
      · cases hStep
        exact hTx (.notifying k) rfl
      · cases hStep
        exact hTx (.sending k) rfl
  · cases hStep

theorem notifyFail_started {callocOk : Bool} (hSound : Sound cfg s) (h : Started cfg s)
    (hStep : notifyFail cfg callocOk s = some s') : Started cfg s' := by
  unfold notifyFail at hStep
  split at hStep
  · rename_i k hPc
    have hTx : ∀ tx : TxPc, tx.early = none → Started cfg { s with tx } :=
      fun tx hNone => h.setTx hSound (Or.inl hNone)
    split at hStep
    · cases hStep
      exact hTx (.failCleaning k) rfl
    · split at hStep
      · cases hStep
        exact hTx (.failCleaning k) rfl
      · split at hStep
        · cases hStep
          exact hTx (.failCleaning k) rfl
        · split at hStep
          · cases hStep
            exact hTx (.posting k _) rfl
          · cases hStep
  · cases hStep

theorem callAsync_started (h : Started cfg s) (hStep : callAsync s = some s') :
    Started cfg s' := by
  unfold callAsync at hStep
  split at hStep
  · split at hStep
    · cases hStep
      exact h
    · split at hStep
      · cases hStep
        exact h
      · cases hStep
        exact h
  · cases hStep

theorem rxClearAsync_started (hSound : Sound cfg s) (h : Started cfg s)
    (hStep : rxClearAsync s = some s') : Started cfg s' := by
  unfold rxClearAsync at hStep
  split at hStep
  · rename_i i hPc
    cases hStep
    exact h.clearAsync hSound i
  · cases hStep

theorem timerClear_started {k : Nat} (hSound : Sound cfg s) (h : Started cfg s)
    (hStep : timerClear k s = some s') : Started cfg s' := by
  unfold timerClear at hStep
  split at hStep
  · rename_i hPc
    have hk : s.timer k ≠ .unarmed := by simp [hPc]
    split at hStep
    · cases hStep
      exact h.update hk
    · rename_i i hFind
      cases hStep
      apply (h.clearAsync hSound i).update
      rcases hSound.clearAsync_spec i with ⟨-, hEq⟩ | ⟨j, -, hEq⟩
      · rwa [hEq]
      · rw [hEq]
        rcases stopTimer_cases s.timer (some j) k with hSame | ⟨-, hArmed, -⟩
        · simpa only [hSame] using hk
        · rw [hPc] at hArmed
          cases hArmed
  · cases hStep

theorem cleanupTables_started (h : Started cfg s) (hStep : cleanupTables s = some s') :
    Started cfg s' := by
  unfold cleanupTables at hStep
  split at hStep
  · cases hStep
    intro k hk
    refine h k fun hUnarmed => hk ?_
    simp [hUnarmed]
  · cases hStep

theorem step_started {a : Action} (hSound : Sound cfg s) (h : Started cfg s)
    (hStep : step cfg s a = some s') : Started cfg s' := by
  by_cases hQuiet : Action.quiet a = true
  · exact h.frame hSound (step_frame hSound hQuiet hStep)
  · unfold step at hStep
    split at hStep
    · cases hStep
    · cases a with
      | composeReq ok => exact composeReq_started hSound h hStep
      | startTimer ok => exact startTimer_started hSound h hStep
      | setAsyncRespCallback => exact setAsyncRespCallback_started hSound h hStep
      | notifyFail callocOk => exact notifyFail_started hSound h hStep
      | callAsync => exact callAsync_started h hStep
      | rxClearAsync => exact rxClearAsync_started hSound h hStep
      | timerClear k => exact timerClear_started hSound h hStep
      | cleanupTables => exact cleanupTables_started h hStep
      | serialSend ok =>
        simp only [serialSend] at hStep
        split at hStep
        · cases hStep
          exact h.setTx hSound (Or.inl (by cases ok <;> rfl))
        · cases hStep
      | cancelThreads =>
        simp only [cancelThreads, Option.ite_none_right_eq_some] at hStep
        obtain ⟨-, hEq⟩ := hStep
        have hTx : Started cfg { s with tx := .cancelled } := h.setTx hSound (Or.inl rfl)
        cases hEq
        exact hTx
      | expire k | timerRead k callocOk | timerCall k =>
        simp only [expire, timerRead, timerCall, Option.ite_none_right_eq_some] at hStep
        obtain ⟨hPc, hEq⟩ := hStep
        cases hEq
        exact h.update (by simp [hPc])
      | _ => exact absurd rfl hQuiet

/-! ## Callbacks that are still to be called -/

/-- A uid is not taken while it is in use, the message of an asynchronous request is always
sent, and its timer does not expire before its callback is registered. -/
def Timely (cfg : Config) (s : Core) : Action → Prop
  | .sendReq => FreshUid cfg s .sendReq
  | .serialSend ok => ok = true ∨ ∀ k ∈ s.tx.held, (cfg.app k).async = false
  | .expire k => s.tx ≠ .registering k
  | _ => True

instance (cfg : Config) (s : Core) (a : Action) : Decidable (Timely cfg s a) := by
  apply Action.casesOn (motive := fun a => Decidable (Timely cfg s a)) a <;> intros <;>
    unfold Timely <;> infer_instance

theorem Timely.freshUid {a : Action} (h : Timely cfg s a) : FreshUid cfg s a := by
  cases a with
  | sendReq => exact h
  | _ => trivial

theorem stopTimer_running {timer : Nat → TimerPc} {hdl : Option Nat} {k : Nat}
    (h : (stopTimer timer hdl k).running = true) : (timer k).running = true := by
  have hSame : stopTimer timer hdl k = timer k := by
    apply stopTimer_eq
    intro hOver
    rw [hOver] at h
    cases h
  rwa [← hSame]

structure Calls (cfg : Config) (s : Core) : Prop where
  vacant : ∀ (i : Nat) (e : Slot AsyncItem), s.asyncRspTable[i]? = some e → e.uid = 0 →
    e.item.cb = none
  running : ∀ k, (s.timer k).running = true → ¬ s.Pending cfg k
  uncalled : ∀ k, s.next ≤ k ∨ s.Pending cfg k → s.cbCalls k = 0
  notifying : ∀ k, s.tx = .notifying k → ¬ HasEntry s.asyncRspTable k
  calling : ∀ k, s.timer k = .calling → ¬ HasEntry s.asyncRspTable k
  called : ∀ i k, owner s.asyncRspTable i = some k → s.cbCalls k = 0 ∨ s.rx.spent i = true

namespace Calls

theorem frame (h : Calls cfg s) (hSound : Sound cfg s) (hStarted : Started cfg s)
    (hFrame : Frame cfg s s') : Calls cfg s' := by
  refine ⟨by rw [hFrame.async]; exact h.vacant, ?_, ?_, ?_, ?_, ?_⟩
  · intro k hRunning hPending
    rw [hFrame.timer] at hRunning
    rcases hFrame.pending k hPending with hOld | hLe
    · exact h.running k hRunning hOld
    · have hQueued := (hStarted k (by rintro hEq; rw [hEq] at hRunning; cases hRunning)).2.1
      rw [hSound.queued.born k hLe] at hQueued
      cases hQueued
  · intro k hk
    rw [hFrame.cbCalls]
    rcases hk with hLe | hPending
    · exact h.uncalled k (Or.inl (Nat.le_trans hFrame.next hLe))
    · exact h.uncalled k (hFrame.pending k hPending).symm
  · intro k hPc
    rw [hFrame.async]
    rcases hFrame.tx with hSame | ⟨-, hNew⟩
    · exact h.notifying k (hSame ▸ hPc)
    · have hComposing := hNew k (by rw [hPc]; rfl)
      rw [hPc] at hComposing
      cases hComposing
  · intro k hPc
    rw [hFrame.timer] at hPc
    rw [hFrame.async]
    exact h.calling k hPc
  · intro i k hOwner
    rw [hFrame.async] at hOwner
    rw [hFrame.cbCalls]
    rcases hFrame.rx with hSame | ⟨hFree, -⟩
    · rw [hSame]
      exact h.called i k hOwner
    · refine Or.inl ((h.called i k hOwner).resolve_right ?_)
      rw [RxPc.not_spent hFree]
      decide

/-- The tx thread goes on, and calls no callback that is registered. -/
theorem setTx (h : Calls cfg s) {tx : TxPc} (hEarly : tx.early = s.tx.early ∨ tx.early = none)
    (hNotify : ∀ k, tx = .notifying k → ¬ HasEntry s.asyncRspTable k) :
    Calls cfg { s with tx } :=
  { h with
    running := fun k hk hPending => h.running k hk (pending_setTx hEarly hPending)
    uncalled := fun k hk => h.uncalled k (hk.imp_right (pending_setTx hEarly))
    notifying := hNotify }

/-- A request that is not registered yet, or that is synchronous, has no entry. -/
theorem no_entry (hSound : Sound cfg s) {k : Nat}
    (hk : (cfg.app k).async = true → s.Pending cfg k) : ¬ HasEntry s.asyncRspTable k := by
  rintro ⟨i, hOwner⟩
  have hAsync := (hSound.tables.owner_entry hOwner).2.1
  exact hSound.tables.owner_not_pending hOwner (hk hAsync)

/-- The request that the tx thread is about to register. -/
theorem pending_of_early {k : Nat} (hEarly : s.tx.early = some k)
    (hAsync : (cfg.app k).async = true) : s.Pending cfg k := by
  unfold Pending Rpc.Pending
  rw [if_pos hAsync]
  exact Or.inr (Or.inr hEarly)

/-- The callback of a request is called that is not to be registered any more, and that has
no other entry than the one in the hands of the rx thread. -/
theorem call (h : Calls cfg s) {k : Nat} (hLt : k < s.next) (hNot : ¬ s.Pending cfg k)
    (hEntry : ∀ i, owner s.asyncRspTable i = some k → s.rx.spent i = true) :
    Calls cfg { s with cbCalls := Function.update s.cbCalls k (s.cbCalls k + 1) } :=
  { h with
    uncalled := fun j hj => by
      have hNe : j ≠ k := by
        rintro rfl
        rcases hj with hLe | hPending
        · exact absurd hLt (Nat.not_lt.mpr hLe)
        · exact hNot hPending
      simp only [Function.update_of_ne hNe]
      exact h.uncalled j hj
    called := fun i j hOwner => by
      by_cases hEq : j = k
      · subst hEq
        exact Or.inr (hEntry i hOwner)
      · simp only [Function.update_of_ne hEq]
        exact h.called i j hOwner }

theorem setTimer (h : Calls cfg s) {k : Nat} {pc : TimerPc}
    (hRunning : pc.running = true → ¬ s.Pending cfg k)
    (hCalling : pc = .calling → ¬ HasEntry s.asyncRspTable k) :
    Calls cfg { s with timer := Function.update s.timer k pc } :=
  { h with
    running := fun j hj => by
      by_cases hEq : j = k
      · subst hEq
        simp only [Function.update_self] at hj
        exact hRunning hj
      · simp only [Function.update_of_ne hEq] at hj
        exact h.running j hj
    calling := fun j hj => by
      by_cases hEq : j = k
      · subst hEq
        simp only [Function.update_self] at hj
        exact hCalling hj
      · simp only [Function.update_of_ne hEq] at hj
        exact h.calling j hj }

/-- Entry `i` is cleared. -/
theorem clearAsync (h : Calls cfg s) (hSound : Sound cfg s) (i : Nat) :
    Calls cfg (s.clearAsyncRespCallback i) := by
  rcases hSound.clearAsync_spec i with ⟨-, hEq⟩ | ⟨k, -, hEq⟩
  · rwa [hEq]
  · rw [hEq]
    have hTimer : ∀ {j pc}, stopTimer s.timer (some k) j = pc → pc ≠ .over → s.timer j = pc := by
      rintro j pc rfl hNe
      exact (stopTimer_eq hNe).symm
    have hOld : ∀ j l, owner (s.asyncRspTable.set i ⟨0, none, none, some k⟩) j = some l →
        owner s.asyncRspTable j = some l := by
      intro j l hOwner
      rcases owner_set hOwner with ⟨-, hNone⟩ | ⟨-, hOwner⟩
      · cases hNone
      · exact hOwner
    exact { h with
      vacant := fun j e he hUid => by
        rcases getElem?_set_cases he with ⟨-, rfl⟩ | ⟨-, he⟩
        · rfl
        · exact h.vacant j e he hUid
      running := fun j hj => h.running j (stopTimer_running (show
        (stopTimer s.timer (some k) j).running = true from hj))
      notifying := fun j hPc ⟨l, hOwner⟩ => h.notifying j hPc ⟨l, hOld l j hOwner⟩
      calling := fun j hPc ⟨l, hOwner⟩ => h.calling j (hTimer hPc (by simp)) ⟨l, hOld l j hOwner⟩
      called := fun j l hOwner => h.called j l (hOld j l hOwner) }

end Calls

theorem composeReq_calls {ok : Bool} (hSound : Sound cfg s) (h : Calls cfg s)
    (hStep : composeReq cfg ok s = some s') : Calls cfg s' := by
  unfold composeReq at hStep
  split at hStep
  · rename_i k hPc
    have hEntry : ¬ HasEntry s.asyncRspTable k :=
      Calls.no_entry hSound (Calls.pending_of_early (by rw [hPc]; rfl))
    have hFail : Calls cfg { s with tx := .notifying k } :=
      h.setTx (Or.inr rfl) (by rintro j ⟨⟩; exact hEntry)
    have hSend : Calls cfg { s with tx := .sending k } := h.setTx (Or.inr rfl) (by simp)
    have hTimer : Calls cfg { s with tx := .starting k } :=
      h.setTx (Or.inl (by rw [hPc]; rfl)) (by simp)
    cases hStep
    cases ok with
    | false => exact { hFail with }
    | true =>
      cases (cfg.app k).async with
      | false => exact { hSend with }
      | true => exact { hTimer with }
  · cases hStep

theorem startTimer_calls {ok : Bool} (hSound : Sound cfg s) (h : Calls cfg s)
    (hStep : startTimer ok s = some s') : Calls cfg s' := by
  unfold startTimer at hStep
  split at hStep
  · rename_i k hPc
    split at hStep
    · have hTx : Calls cfg { s with tx := .registering k } :=
        h.setTx (Or.inl (by rw [hPc]; rfl)) (by simp)
      have hTimer : Calls cfg { s with
          tx := .registering k, timer := Function.update s.timer k .armed } :=
        hTx.setTimer nofun nofun
      cases hStep
      exact { hTimer with }
    · have hFail : Calls cfg { s with tx := .notifying k } := by
        refine h.setTx (Or.inr rfl) ?_
        rintro j ⟨⟩
        exact Calls.no_entry hSound (Calls.pending_of_early (by rw [hPc]; rfl))
      cases hStep
      exact { hFail with }
  · cases hStep

theorem setAsyncRespCallback_calls (hSound : Sound cfg s) (h : Calls cfg s)
    (hStep : setAsyncRespCallback cfg s = some s') : Calls cfg s' := by
  unfold setAsyncRespCallback at hStep
  split at hStep
  · rename_i k hPc
    have hAsync : (cfg.app k).async = true := hSound.timed k (by rw [hPc]; rfl)
    have hPending : s.Pending cfg k := Calls.pending_of_early (by rw [hPc]; rfl) hAsync
    have hFail : Calls cfg { s with tx := .notifying k } := by
      refine h.setTx (Or.inr rfl) ?_
      rintro j ⟨⟩
      exact Calls.no_entry hSound fun _ => hPending
    split at hStep
    · cases hStep
      exact { hFail with }
    · split at hStep
      · cases hStep
        exact { hFail with }
      · rename_i i hFree
        have hSend : Calls cfg { s with tx := .sending k } := h.setTx (Or.inr rfl) (by simp)
        have hOwner : ∀ j l, owner (s.asyncRspTable.set i ⟨s.uidOf k, some k, some k, some k⟩) j =
            some l → l = k ∨ owner s.asyncRspTable j = some l := by
          intro j l hj
          rcases owner_set hj with ⟨-, hEq⟩ | ⟨-, hj⟩
          · cases hEq
            exact Or.inl rfl
          · exact Or.inr hj
        have hNe : s.uidOf k ≠ 0 := hSound.tables.uid k (hSound.tables.pending k hPending).1
        cases hStep
        exact { hSend with
          vacant := fun j e he hUid => by
            rcases getElem?_set_cases he with ⟨-, rfl⟩ | ⟨-, he⟩
            · exact absurd hUid hNe
            · exact h.vacant j e he hUid
          notifying := fun j hj => by cases hj
          calling := fun j hj ⟨l, hl⟩ => by
            rcases hOwner l j hl with rfl | hl
            · exact h.running j (by rw [show s.timer j = .calling from hj]; rfl) hPending
            · exact h.calling j hj ⟨l, hl⟩
          called := fun j l hj => by
            rcases hOwner j l hj with rfl | hj
            · exact Or.inl (h.uncalled l (Or.inr hPending))
            · exact h.called j l hj }
  · cases hStep

theorem serialSend_calls {ok : Bool} (hSound : Sound cfg s) (h : Calls cfg s)
    (hTimely : Timely cfg s (.serialSend ok)) (hStep : serialSend ok s = some s') :
    Calls cfg s' := by
  unfold serialSend at hStep
  split at hStep
  · rename_i k hPc
    cases hStep
    cases ok with
    | true =>
      have hClean : Calls cfg { s with tx := .cleaning k } := h.setTx (Or.inr rfl) (by simp)
      exact hClean
    | false =>
      suffices hFail : Calls cfg { s with tx := .notifying k } from hFail
      refine h.setTx (Or.inr rfl) ?_
      rintro j ⟨⟩
      apply Calls.no_entry hSound
      intro hAsync
      rw [hTimely.resolve_left (by decide) k (by rw [hPc]; rfl)] at hAsync
      cases hAsync
  · cases hStep

theorem notifyFail_calls {callocOk : Bool} (hSound : Sound cfg s) (h : Calls cfg s)
    (hStep : notifyFail cfg callocOk s = some s') : Calls cfg s' := by
  unfold notifyFail at hStep
  split at hStep
  · rename_i k hPc
    have hTx : ∀ tx : TxPc, tx.early = none → tx.owing = none → Calls cfg { s with tx } := by
      intro tx hEarly hOwing
      refine h.setTx (Or.inr hEarly) ?_
      rintro j rfl
      cases hOwing
    split at hStep
    · cases hStep
      exact { hTx (.failCleaning k) rfl rfl with }
    · split at hStep
      · rename_i hAsync
        have hHeld : s.tx.held = some k := by rw [hPc]; rfl
        have hLt : k < s.next := by
          apply hSound.queued.lt_next
          intro hUnborn
          have hQueued := hSound.queued.queued k (Or.inr hHeld)
          rw [hUnborn] at hQueued
          cases hQueued
        have hCalled : Calls cfg { s with
            tx := .failCleaning k, cbCalls := Function.update s.cbCalls k (s.cbCalls k + 1) } := by
          apply (hTx (.failCleaning k) rfl rfl).call hLt
          · exact hSound.not_pending_of_held hHeld hAsync
          · exact fun i hOwner => absurd ⟨i, hOwner⟩ (h.notifying k hPc)
        cases hStep
        exact { hCalled with }
      · split at hStep
        · cases hStep
          exact { hTx (.failCleaning k) rfl rfl with }
        · split at hStep
          · have hPost := hTx (.posting k ⟨(cfg.app k).expRespMsgId, 0⟩) rfl rfl
            cases hStep
            exact { hPost with }
          · cases hStep
  · cases hStep

/-- The response belongs to the entry whose callback is called. -/
theorem Calls.owner_of_find (h : Calls cfg s) {u i k : Nat}
    (hFind : find s.asyncRspTable u = some i)
    (hCb : (s.asyncRspTable[i]?).bind (·.item.cb) = some k) :
    owner s.asyncRspTable i = some k ∧ u ≠ 0 := by
  obtain ⟨e, he, rfl⟩ := find_some hFind
  rw [he] at hCb
  have hNe : e.uid ≠ 0 := by
    intro hZero
    rw [Option.bind_some, h.vacant i e he hZero] at hCb
    cases hCb
  refine ⟨?_, hNe⟩
  unfold owner
  rw [he, Option.bind_some, if_neg hNe]
  exact hCb

theorem callAsync_calls (hSound : Sound cfg s) (h : Calls cfg s)
    (hStep : callAsync s = some s') : Calls cfg s' := by
  unfold callAsync at hStep
  split at hStep
  · rename_i resp hPc
    have hUncalled : ∀ i k, owner s.asyncRspTable i = some k → s.cbCalls k = 0 := by
      intro i k hOwner
      apply (h.called i k hOwner).resolve_right
      simp [hPc, RxPc.spent]
    split at hStep
    · cases hStep
      exact { h with called := fun i k hOwner => Or.inl (hUncalled i k hOwner) }
    · rename_i i hFind
      split at hStep
      · cases hStep
        exact { h with }
      · rename_i k hCb
        obtain ⟨hOwner, -⟩ := h.owner_of_find hFind hCb
        have hRx : Calls cfg { s with rx := .clearing i } :=
          { h with called := fun j l hj => Or.inl (hUncalled j l hj) }
        have hLt := (hSound.tables.owner_entry hOwner).1
        have hNot := hSound.tables.owner_not_pending hOwner
        cases hStep
        apply hRx.call hLt hNot
        intro j hj
        rw [hSound.tables.owner_inj hj hOwner]
        simp [RxPc.spent]
  · cases hStep

theorem rxClearAsync_calls (hSound : Sound cfg s) (h : Calls cfg s)
    (hStep : rxClearAsync s = some s') : Calls cfg s' := by
  unfold rxClearAsync at hStep
  split at hStep
  · rename_i i hPc
    have hCleared := h.clearAsync hSound i
    cases hStep
    exact { hCleared with
      called := fun j k hj => by
        refine Or.inl ((hCleared.called j k hj).resolve_right ?_)
        rw [clearAsync_rx, hPc]
        simpa [RxPc.spent] using (hSound.owner_cleared hj).1.symm }
  · cases hStep

theorem timerClear_calls {k : Nat} (hSound : Sound cfg s) (h : Calls cfg s)
    (hStep : timerClear k s = some s') : Calls cfg s' := by
  unfold timerClear at hStep
  split at hStep
  · rename_i hPc
    have hNot : ¬ s.Pending cfg k := h.running k (by rw [hPc]; rfl)
    split at hStep
    · rename_i hNone
      cases hStep
      apply h.setTimer fun _ => hNot
      rintro - ⟨i, hOwner⟩
      rw [hSound.tables.owner_find hOwner] at hNone
      cases hNone
    · rename_i i hFind
      cases hStep
      have hCleared := h.clearAsync hSound i
      have hGone : ¬ HasEntry (s.clearAsyncRespCallback i).asyncRspTable k := by
        rintro ⟨j, hj⟩
        obtain ⟨hNe, hOwner⟩ := hSound.owner_cleared hj
        rw [hSound.tables.owner_find hOwner] at hFind
        cases hFind
        exact hNe rfl
      apply hCleared.setTimer
      · intro _
        rcases hSound.clearAsync_spec i with ⟨-, hEq⟩ | ⟨l, -, hEq⟩ <;> rwa [hEq]
      · exact fun _ => hGone
  · cases hStep

theorem timerCall_calls {k : Nat} (hSound : Sound cfg s) (hStarted : Started cfg s)
    (h : Calls cfg s) (hStep : timerCall k s = some s') : Calls cfg s' := by
  unfold timerCall at hStep
  split at hStep
  · rename_i hPc
    have hLt : k < s.next := by
      apply hSound.queued.lt_next
      intro hUnborn
      have hQueued := (hStarted k (by rw [hPc]; decide)).2.1
      rw [hUnborn] at hQueued
      cases hQueued
    have hOver : Calls cfg { s with timer := Function.update s.timer k .over } :=
      h.setTimer nofun nofun
    cases hStep
    apply hOver.call hLt (h.running k (by rw [hPc]; rfl))
    exact fun i hOwner => absurd ⟨i, hOwner⟩ (h.calling k hPc)
  · cases hStep

theorem cleanupTables_calls (h : Calls cfg s) (hStep : cleanupTables s = some s') :
    Calls cfg s' := by
  unfold cleanupTables at hStep
  split at hStep
  · cases hStep
    exact { h with
      vacant := fun i e he _ => by
        obtain ⟨-, -, rfl⟩ := List.mem_map.mp (List.mem_of_getElem? he)
        rfl
      running := fun k hk => h.running k (by
        simp only at hk
        split at hk
        · cases hk
        · exact hk)
      notifying := fun k _ ⟨i, hOwner⟩ => owner_wiped hOwner
      calling := fun k _ ⟨i, hOwner⟩ => owner_wiped hOwner
      called := fun i k hOwner => absurd hOwner owner_wiped }
  · cases hStep

theorem init_calls (cfg : Config) : Calls cfg (init cfg) := by
  have hFree : ∀ e ∈ (init cfg).asyncRspTable, e = ⟨0, none, none, none⟩ := fun e he =>
    List.eq_of_mem_replicate he
  have hOwner : ∀ i k, owner (init cfg).asyncRspTable i ≠ some k := by
    intro i k h
    obtain ⟨e, he, hItem⟩ := Option.bind_eq_some_iff.mp h
    rw [hFree e (List.mem_of_getElem? he)] at hItem
    cases hItem
  exact ⟨fun i e he _ => (by rw [hFree e (List.mem_of_getElem? he)]), nofun, fun _ _ => rfl, nofun,
    nofun, fun i k hEntry => absurd hEntry (hOwner i k)⟩

theorem step_calls {a : Action} (hSound : Sound cfg s) (hStarted : Started cfg s)
    (h : Calls cfg s) (hTimely : Timely cfg s a) (hStep : step cfg s a = some s') :
    Calls cfg s' := by
  by_cases hQuiet : Action.quiet a = true
  · exact h.frame hSound hStarted (step_frame hSound hQuiet hStep)
  · unfold step at hStep
    split at hStep
    · cases hStep
    · cases a with
      | composeReq ok => exact composeReq_calls hSound h hStep
      | startTimer ok => exact startTimer_calls hSound h hStep
      | setAsyncRespCallback => exact setAsyncRespCallback_calls hSound h hStep
      | serialSend ok => exact serialSend_calls hSound h hTimely hStep
      | notifyFail callocOk => exact notifyFail_calls hSound h hStep
      | callAsync => exact callAsync_calls hSound h hStep
      | rxClearAsync => exact rxClearAsync_calls hSound h hStep
      | timerClear k => exact timerClear_calls hSound h hStep
      | timerCall k => exact timerCall_calls hSound hStarted h hStep
      | cleanupTables => exact cleanupTables_calls h hStep
      | expire k =>
        simp only [expire, Option.ite_none_right_eq_some] at hStep
        obtain ⟨hPc, hEq⟩ := hStep
        cases hEq
        refine h.setTimer ?_ fun hEq => absurd hEq (by simp)
        -- the timer of a request that is still to be registered is started at `registering`
        exact fun _ hPending => hTimely ((hStarted k (by rw [hPc]; decide)).2.2 hPending)
      | timerRead k callocOk =>
        simp only [timerRead, Option.ite_none_right_eq_some] at hStep
        obtain ⟨hPc, hEq⟩ := hStep
        have hNot : ¬ s.Pending cfg k := h.running k (by rw [hPc]; rfl)
        have hGo : ∀ pc : TimerPc, pc ≠ .calling →
            Calls cfg { s with timer := Function.update s.timer k pc } := fun pc hNe =>
          h.setTimer (fun _ => hNot) fun hEq => absurd hEq hNe
        cases hEq
        cases callocOk with
        | true => exact { hGo .clearing (by simp) with }
        | false => exact { hGo .over (by simp) with }
      | cancelThreads =>
        simp only [cancelThreads, Option.ite_none_right_eq_some] at hStep
        obtain ⟨-, hEq⟩ := hStep
        have hTx : Calls cfg { s with tx := .cancelled } := h.setTx (Or.inr rfl) (by simp)
        cases hEq
        exact { hTx with called := fun _ _ _ => Or.inr rfl }
      | _ => exact absurd rfl hQuiet

theorem init_started (cfg : Config) : Started cfg (init cfg) := fun _ hk => absurd rfl hk

end Core

end EspHosted.Rpc
