import EspHosted.Rpc.Tables

/-!
# Requests that fail

A request fails in `rpc_send_req` when its semaphore cannot be registered or `rpc_tx_q` does not
take it, and in `process_rpc_tx_msg` when it cannot be transmitted. `rpc_send_req` then deletes the
semaphore and frees the request; a slot that it registered before stays. `process_rpc_tx_msg` makes
a response by hand, without the uid of the request.

* `Others`: what a step can do to the requests that are not in `rpc_tx_q` yet;
* `not_failureReported`: the failure response never wakes its caller;
* `failsClean_of_reaches`: a failed call leaves nothing behind, if `rpc_tx_q` takes every
  synchronous request.
-/

namespace EspHosted.Rpc.Core

open Slots Machine

variable {cfg : Config} {s s' : Core}

/-! ## What the steps do to a request that is not queued -/

/-- The tx thread has the request, or will get it, or an entry for its callback points to it. -/
def Mentions (s : Core) (k : Nat) : Prop :=
  k ∈ s.rpcTxQ ∨ s.tx.held = some k ∨ ∃ e ∈ s.asyncRspTable,
    e.item.cb = some k ∨ e.item.timerHdl = some k ∨ e.item.appReq = some k

/-- The effect of a step that no thread takes in `rpc_send_req`. -/
structure Others (s s' : Core) : Prop where
  next : s'.next = s.next
  uidOf : s'.uidOf = s.uidOf
  caller : ∀ k, s'.caller k = s.caller k ∨
    ((s.caller k).queued = true ∧ (s'.caller k).queued = true)
  mentions : ∀ k, s'.Mentions k → s.Mentions k
  sync : ∀ e ∈ s'.syncRspTable, e ∈ s.syncRspTable ∨ e = ⟨0, none⟩
  sem : ∀ k, s'.sem k = s.sem k ∨ (∃ b b', s.sem k = .live b ∧ s'.sem k = .live b') ∨
    (s'.sem k = .deleted ∧ ∃ e ∈ s.syncRspTable, e.item = some k)
  freed : ∀ k, s'.freed k = s.freed k ∨ s.Mentions k ∨ (s.caller k).queued = true
  posting : ∀ k resp, s'.tx = .posting k resp → s.tx = .posting k resp ∨ resp.uid = 0

/-- The part of the state that `Others` is about. -/
structure Sends where
  next : Nat
  uidOf : Nat → Nat
  caller : Nat → CallerPc
  sem : Nat → Sem
  sync : List (Slot (Option Nat))
  async : List (Slot AsyncItem)
  rpcTxQ : List Nat
  tx : TxPc
  freed : Nat → Nat

def sends (s : Core) : Sends :=
  ⟨s.next, s.uidOf, s.caller, s.sem, s.syncRspTable, s.asyncRspTable, s.rpcTxQ, s.tx, s.freed⟩

theorem mentions_iff {k : Nat} : s.Mentions k ↔
    k ∈ s.sends.rpcTxQ ∨ s.sends.tx.held = some k ∨ ∃ e ∈ s.sends.async,
      e.item.cb = some k ∨ e.item.timerHdl = some k ∨ e.item.appReq = some k := Iff.rfl

theorem Others.trans {t u : Core} (h : Others s t) (h' : Others t u) : Others s u where
  next := h'.next.trans h.next
  uidOf := h'.uidOf.trans h.uidOf
  caller := by
    intro k
    rcases h.caller k with hEq | ⟨hOld, hMid⟩
    · rw [← hEq]
      exact h'.caller k
    · rcases h'.caller k with hEq' | ⟨-, hNew⟩
      · rw [hEq']
        exact Or.inr ⟨hOld, hMid⟩
      · exact Or.inr ⟨hOld, hNew⟩
  mentions := fun k hk => h.mentions k (h'.mentions k hk)
  sync := by
    intro e he
    rcases h'.sync e he with hMid | hFree
    · exact h.sync e hMid
    · exact Or.inr hFree
  sem := by
    intro k
    have hEntry : (∃ e ∈ t.syncRspTable, e.item = some k) →
        ∃ e ∈ s.syncRspTable, e.item = some k := by
      rintro ⟨e, he, hItem⟩
      rcases h.sync e he with hOld | rfl
      · exact ⟨e, hOld, hItem⟩
      · cases hItem
    rcases h'.sem k with hEq' | ⟨b, b', hMid, hNew⟩ | ⟨hGone, hMid⟩
    · rw [hEq']
      exact h.sem k
    · rcases h.sem k with hEq | ⟨c, c', hOld, -⟩ | ⟨hGone, -⟩
      · exact Or.inr (Or.inl ⟨b, b', hEq ▸ hMid, hNew⟩)
      · exact Or.inr (Or.inl ⟨c, b', hOld, hNew⟩)
      · rw [hGone] at hMid
        cases hMid
    · exact Or.inr (Or.inr ⟨hGone, hEntry hMid⟩)
  freed := by
    intro k
    have hQueued : (t.caller k).queued = true → (s.caller k).queued = true := by
      intro hMid
      rcases h.caller k with hEq | ⟨hOld, -⟩
      · rwa [← hEq]
      · exact hOld
    rcases h'.freed k with hEq' | hMid | hMid
    · rw [hEq']
      exact h.freed k
    · exact Or.inr (Or.inl (h.mentions k hMid))
    · exact Or.inr (Or.inr (hQueued hMid))
  posting := by
    intro k resp hTx
    rcases h'.posting k resp hTx with hMid | hZero
    · exact h.posting k resp hMid
    · exact Or.inr hZero

/-! ### Parts of a step -/

theorem others_same (h : s'.sends = s.sends) : Others s s' where
  next := congrArg Sends.next h
  uidOf := congrArg Sends.uidOf h
  caller := fun k => Or.inl (congrFun (congrArg Sends.caller h) k)
  mentions := fun k hk => by rwa [mentions_iff, h] at hk
  sync := by
    have hSync : s'.syncRspTable = s.syncRspTable := congrArg Sends.sync h
    intro e he
    exact Or.inl (hSync ▸ he)
  sem := fun k => Or.inl (congrFun (congrArg Sends.sem h) k)
  freed := fun k => Or.inl (congrFun (congrArg Sends.freed h) k)
  posting := fun _ _ hTx => Or.inl ((congrArg Sends.tx h).symm.trans hTx)

/-- A queued request goes on. -/
theorem others_caller {k : Nat} {pc : CallerPc}
    (h : s'.sends = { s.sends with caller := Function.update s.caller k pc })
    (hOld : (s.caller k).queued = true) (hNew : pc.queued = true) : Others s s' := by
  have hMid : Others s (s.setCaller k pc) := by
    refine ⟨rfl, rfl, ?_, fun _ h => h, fun _ h => Or.inl h, fun _ => Or.inl rfl,
      fun _ => Or.inl rfl, fun _ _ h => Or.inl h⟩
    intro j
    by_cases hEq : j = k
    · subst hEq
      exact Or.inr ⟨hOld, by simpa only [setCaller, Function.update_self] using hNew⟩
    · exact Or.inl (Function.update_of_ne hEq _ _)
  exact hMid.trans (others_same h)

/-- A semaphore is given or taken. -/
theorem others_sem {k : Nat} {old given : Bool}
    (h : s'.sends = { s.sends with sem := Function.update s.sem k (.live given) })
    (hLive : s.sem k = .live old) : Others s s' := by
  have hMid : Others s { s with sem := Function.update s.sem k (.live given) } := by
    refine ⟨rfl, rfl, fun _ => Or.inl rfl, fun _ h => h, fun _ h => Or.inl h, ?_,
      fun _ => Or.inl rfl, fun _ _ h => Or.inl h⟩
    intro j
    by_cases hEq : j = k
    · subst hEq
      exact Or.inr (Or.inl ⟨old, given, hLive, Function.update_self ..⟩)
    · exact Or.inl (Function.update_of_ne hEq _ _)
  exact hMid.trans (others_same h)

/-- A request that is queued, or that the tx thread or an entry has, is freed. -/
theorem others_free {k n : Nat}
    (h : s'.sends = { s.sends with freed := Function.update s.freed k n })
    (hOwner : s.Mentions k ∨ (s.caller k).queued = true) : Others s s' := by
  have hMid : Others s { s with freed := Function.update s.freed k n } := by
    refine ⟨rfl, rfl, fun _ => Or.inl rfl, fun _ h => h, fun _ h => Or.inl h,
      fun _ => Or.inl rfl, ?_, fun _ _ h => Or.inl h⟩
    intro j
    by_cases hEq : j = k
    · rw [hEq]
      exact Or.inr hOwner
    · exact Or.inl (Function.update_of_ne hEq _ _)
  exact hMid.trans (others_same h)

/-- The tx thread goes on with its request, or is done with it. -/
theorem others_tx {tx : TxPc} (h : s'.sends = { s.sends with tx := tx })
    (hHeld : tx.held = s.tx.held ∨ tx.held = none)
    (hPosting : ∀ k resp, tx = .posting k resp → resp.uid = 0) : Others s s' := by
  have hMid : Others s { s with tx := tx } := by
    refine ⟨rfl, rfl, fun _ => Or.inl rfl, ?_, fun _ h => Or.inl h, fun _ => Or.inl rfl,
      fun _ => Or.inl rfl, fun k resp hTx => Or.inr (hPosting k resp hTx)⟩
    rintro k (hQueue | hTx | hEntry)
    · exact Or.inl hQueue
    · rcases hHeld with hEq | hEq
      · exact Or.inr (Or.inl (hEq ▸ hTx))
      · have hTx : tx.held = some k := hTx
        rw [hEq] at hTx
        cases hTx
    · exact Or.inr (Or.inr hEntry)
  exact hMid.trans (others_same h)

/-- An entry for a callback is written, with pointers to requests that are known already. -/
theorem others_async {i : Nat} {e : Slot AsyncItem}
    (h : s'.sends = { s.sends with async := s.asyncRspTable.set i e })
    (hEntry : ∀ k, e.item.cb = some k ∨ e.item.timerHdl = some k ∨ e.item.appReq = some k →
      s.Mentions k) : Others s s' := by
  have hMid : Others s { s with asyncRspTable := s.asyncRspTable.set i e } := by
    refine ⟨rfl, rfl, fun _ => Or.inl rfl, ?_, fun _ h => Or.inl h, fun _ => Or.inl rfl,
      fun _ => Or.inl rfl, fun _ _ h => Or.inl h⟩
    rintro k (hQueue | hTx | ⟨f, hf, hItem⟩)
    · exact Or.inl hQueue
    · exact Or.inr (Or.inl hTx)
    · rcases List.mem_or_eq_of_mem_set hf with hOld | rfl
      · exact Or.inr (Or.inr ⟨f, hOld, hItem⟩)
      · exact hEntry k hItem
  exact hMid.trans (others_same h)

/-- An entry for a semaphore becomes free, and its semaphore is deleted. -/
theorem others_clear {i : Nat}
    (h : s'.sends = { s.sends with
      sem := deleteSem s.sem ((s.syncRspTable[i]?).bind (·.item))
      sync := s.syncRspTable.set i ⟨0, none⟩ }) : Others s s' := by
  have hMid : Others s { s with
      sem := deleteSem s.sem ((s.syncRspTable[i]?).bind (·.item))
      syncRspTable := s.syncRspTable.set i ⟨0, none⟩ } := by
    refine ⟨rfl, rfl, fun _ => Or.inl rfl, fun _ h => h,
      fun _ he => List.mem_or_eq_of_mem_set he, ?_, fun _ => Or.inl rfl, fun _ _ h => Or.inl h⟩
    intro k
    cases hItem : (s.syncRspTable[i]?).bind (·.item) with
    | none => exact Or.inl rfl
    | some j =>
      obtain ⟨e, he, hj⟩ := Option.bind_eq_some_iff.mp hItem
      by_cases hEq : k = j
      · subst hEq
        exact Or.inr (Or.inr ⟨Function.update_self .., e, List.mem_of_getElem? he, hj⟩)
      · exact Or.inl (Function.update_of_ne hEq _ _)
  exact hMid.trans (others_same h)

theorem mentions_held {tx : TxPc} {k : Nat} (hPc : s.tx = tx) (hHeld : tx.held = some k) :
    s.Mentions k := Or.inr (Or.inl (by rw [hPc, hHeld]))

/-! ### Callers behind `rpc_send_req` -/

theorem rpcTxInd_others {k : Nat} (h : rpcTxInd cfg k s = some s') : Others s s' := by
  unfold rpcTxInd at h
  split at h
  · rename_i hPc
    cases h
    exact others_caller rfl (by rw [hPc]; rfl) rfl
  · cases h

theorem readRspCb_others {k : Nat} (h : readRspCb cfg k s = some s') : Others s s' := by
  unfold readRspCb at h
  split at h
  · rename_i hPc
    cases h
    exact others_caller rfl (by rw [hPc]; rfl) (by split <;> rfl)
  · cases h

theorem lookupSem_others {k : Nat} (h : lookupSem cfg k s = some s') : Others s s' := by
  unfold lookupSem at h
  split at h
  · rename_i hPc
    have hOld : (s.caller k).queued = true := by rw [hPc]; rfl
    split at h
    · cases h
      exact others_caller rfl hOld rfl
    · split at h
      · cases h
        exact others_caller rfl hOld rfl
      · cases h
        exact others_caller rfl hOld rfl
  · cases h

theorem takeSem_others {k : Nat} (h : takeSem k s = some s') : Others s s' := by
  unfold takeSem at h
  split at h
  · rename_i i j hPc
    split at h
    · rename_i hLive
      have hMove : Others s (s.setCaller k (.taken i true)) :=
        others_caller rfl (by rw [hPc]; rfl) rfl
      cases h
      exact hMove.trans (others_sem rfl hLive)
    · cases h
  · cases h

theorem semTimeout_others {k : Nat} (h : semTimeout k s = some s') : Others s s' := by
  unfold semTimeout at h
  split at h
  · rename_i i sem hPc
    split at h
    · cases h
    · cases h
      exact others_caller rfl (by rw [hPc]; rfl) rfl
  · cases h

theorem clearSync_others {k : Nat} (h : clearSync k s = some s') : Others s s' := by
  unfold clearSync at h
  split at h
  · rename_i i ok hPc
    have hMove : Others s (s.setCaller k (if ok then .receiving else .freeing none)) :=
      others_caller rfl (by rw [hPc]; rfl) (by split <;> rfl)
    cases h
    exact hMove.trans (others_clear rfl)
  · cases h

theorem recvRx_others {k : Nat} (h : recvRx k s = some s') : Others s s' := by
  unfold recvRx at h
  split at h
  · rename_i hPc
    have hOld : (s.caller k).queued = true := by rw [hPc]; rfl
    split at h
    · split at h
      · cases h
      · cases h
        exact others_caller rfl hOld rfl
    · cases h
      exact others_caller rfl hOld rfl
  · cases h

theorem freeReq_others {k : Nat} (h : freeReq k s = some s') : Others s s' := by
  unfold freeReq at h
  split at h
  · rename_i resp hPc
    have hOld : (s.caller k).queued = true := by rw [hPc]; rfl
    have hFree : Others s ((s.touch k).free k) := others_free rfl (Or.inr hOld)
    cases h
    exact hFree.trans (others_caller rfl hOld rfl)
  · cases h

/-! ### Tables -/

theorem postSync_others (resp : Resp) (s : Core) : Others s (s.postSyncRespSem resp) := by
  unfold postSyncRespSem
  split
  · exact others_same rfl
  · split
    · split
      · exact others_same rfl
      · split
        · rename_i hLive
          exact others_sem rfl hLive
        · exact others_same rfl
    · exact others_same rfl

theorem clearAsync_others (i : Nat) (s : Core) : Others s (s.clearAsyncRespCallback i) := by
  rcases clearAsync_cases i s with hEq | ⟨e, he, -, hEq⟩
  · rw [hEq]
    exact others_same rfl
  · rw [hEq]
    have hEntry (k : Nat) (hReq : e.item.appReq = some k) : s.Mentions k :=
      Or.inr (Or.inr ⟨e, List.mem_of_getElem? he, Or.inr (Or.inr hReq)⟩)
    have hFree : Others s { s with freed := freePtr s.freed e.item.appReq } := by
      cases hReq : e.item.appReq with
      | none => exact others_same rfl
      | some k => exact others_free rfl (Or.inl (hEntry k hReq))
    apply hFree.trans
    apply others_async rfl
    rintro k (hCb | hTimer | hReq)
    · cases hCb
    · cases hTimer
    · exact hEntry k hReq

/-! ### The tx thread -/

theorem txTakeSem_others (h : txTakeSem s = some s') : Others s s' := by
  unfold txTakeSem at h
  split at h
  · cases h
    exact others_tx rfl (Or.inr rfl) nofun
  · cases h

theorem recvTx_others (h : recvTx s = some s') : Others s s' := by
  unfold recvTx at h
  split at h
  · split at h
    · split at h
      · cases h
      · rename_i k rest hQueue
        cases h
        refine ⟨rfl, rfl, fun _ => Or.inl rfl, ?_, fun _ h => Or.inl h, fun _ => Or.inl rfl,
          fun _ => Or.inl rfl, nofun⟩
        rintro j (hRest | hTx | hEntry)
        · exact Or.inl (by rw [hQueue]; exact List.mem_cons_of_mem _ hRest)
        · cases hTx
          exact Or.inl (by rw [hQueue]; exact List.mem_cons_self)
        · exact Or.inr (Or.inr hEntry)
    · cases h
      exact others_tx rfl (Or.inr rfl) nofun
  · cases h

theorem composeReq_others {ok : Bool} (h : composeReq cfg ok s = some s') : Others s s' := by
  unfold composeReq at h
  split at h
  · rename_i k hPc
    split at h
    · cases h
      exact others_tx rfl (Or.inl (by rw [hPc]; rfl)) nofun
    · split at h
      · cases h
        exact others_tx rfl (Or.inl (by rw [hPc]; rfl)) nofun
      · cases h
        exact others_tx rfl (Or.inl (by rw [hPc]; rfl)) nofun
  · cases h

theorem startTimer_others {ok : Bool} (h : startTimer ok s = some s') : Others s s' := by
  unfold startTimer at h
  split at h
  · rename_i k hPc
    split at h
    · cases h
      exact others_tx rfl (Or.inl (by rw [hPc]; rfl)) nofun
    · cases h
      exact others_tx rfl (Or.inl (by rw [hPc]; rfl)) nofun
  · cases h

theorem setAsyncRespCallback_others (h : setAsyncRespCallback cfg s = some s') :
    Others s s' := by
  unfold setAsyncRespCallback at h
  split at h
  · rename_i k hPc
    split at h
    · cases h
      exact others_tx rfl (Or.inl (by rw [hPc]; rfl)) nofun
    · split at h
      · cases h
        exact others_tx rfl (Or.inl (by rw [hPc]; rfl)) nofun
      · have hSend : Others s { s.touch k with tx := .sending k } :=
          others_tx rfl (Or.inl (by rw [hPc]; rfl)) nofun
        cases h
        apply hSend.trans
        apply others_async rfl
        intro j hItem
        have hEq : k = j := by rcases hItem with hj | hj | hj <;> exact Option.some.inj hj
        exact mentions_held rfl (congrArg some hEq)
  · cases h

theorem serialSend_others {ok : Bool} (h : serialSend ok s = some s') : Others s s' := by
  unfold serialSend at h
  split at h
  · rename_i k hPc
    cases h
    exact others_tx rfl (Or.inl (by rw [hPc]; split <;> rfl)) (by split <;> nofun)
  · cases h

theorem txCleanup_others (h : txCleanup s = some s') : Others s s' := by
  unfold txCleanup at h
  split at h
  · cases h
    exact others_tx rfl (Or.inr rfl) nofun
  · cases h

/-- The response that is made here has the uid 0. -/
theorem notifyFail_others {callocOk : Bool} (h : notifyFail cfg callocOk s = some s') :
    Others s s' := by
  unfold notifyFail at h
  split at h
  · rename_i k hPc
    have hHeld : some k = s.tx.held := by rw [hPc]; rfl
    split at h
    · cases h
      exact others_tx rfl (Or.inl hHeld) nofun
    · split at h
      · cases h
        exact others_tx rfl (Or.inl hHeld) nofun
      · split at h
        · cases h
          exact others_tx rfl (Or.inl hHeld) nofun
        · split at h
          · cases h
            refine others_tx rfl (Or.inl hHeld) ?_
            intro j resp hTx
            cases hTx
            rfl
          · cases h
  · cases h

theorem txPostSync_others (h : txPostSync s = some s') : Others s s' := by
  unfold txPostSync at h
  split at h
  · rename_i k resp hPc
    cases h
    refine (postSync_others resp s).trans (others_tx rfl (Or.inl ?_) nofun)
    obtain ⟨sem, woken, fault, hEq⟩ := postSyncRespSem_frame resp s
    rw [hEq]
    show _ = s.tx.held
    rw [hPc]
    rfl
  · cases h

theorem failCleanup_others (h : failCleanup cfg s = some s') : Others s s' := by
  unfold failCleanup at h
  split at h
  · rename_i k hPc
    split at h
    · cases h
      exact others_tx rfl (Or.inl (by rw [hPc]; rfl)) nofun
    · cases h
      exact others_tx rfl (Or.inr rfl) nofun
  · cases h

theorem scanAsync_others (h : scanAsync s = some s') : Others s s' := by
  unfold scanAsync at h
  split at h
  · rename_i k hPc
    split at h
    · cases h
      exact others_tx rfl (Or.inr rfl) nofun
    · have hFree : Others s ((s.touch k).free k) :=
        others_free rfl (Or.inl (mentions_held hPc rfl))
      cases h
      exact hFree.trans (others_tx rfl (Or.inr rfl) nofun)
  · cases h

/-! ### The rx thread and the timers -/

theorem recvResp_others {resp : Resp} (h : recvResp resp s = some s') : Others s s' := by
  unfold recvResp at h
  split at h
  · cases h
    exact others_same rfl
  · cases h

theorem isAsyncAvailable_others (h : isAsyncAvailable s = some s') : Others s s' := by
  unfold isAsyncAvailable at h
  split at h
  · split at h
    · cases h
      exact others_same rfl
    · cases h
      exact others_same rfl
  · cases h

theorem callAsync_others (h : callAsync s = some s') : Others s s' := by
  unfold callAsync at h
  split at h
  · split at h
    · cases h
      exact others_same rfl
    · split at h
      · cases h
        exact others_same rfl
      · cases h
        exact others_same rfl
  · cases h

theorem rxClearAsync_others (h : rxClearAsync s = some s') : Others s s' := by
  unfold rxClearAsync at h
  split at h
  · rename_i i hPc
    cases h
    exact (clearAsync_others i s).trans (others_same rfl)
  · cases h

theorem queueRx_others (h : queueRx s = some s') : Others s s' := by
  unfold queueRx at h
  split at h
  · split at h
    · cases h
      exact others_same rfl
    · split at h
      · cases h
        exact others_same rfl
      · cases h
  · cases h

theorem rxPostSync_others (h : rxPostSync s = some s') : Others s s' := by
  unfold rxPostSync at h
  split at h
  · rename_i resp hPc
    cases h
    exact (postSync_others resp s).trans (others_same rfl)
  · cases h

theorem expire_others {k : Nat} (h : expire k s = some s') : Others s s' := by
  unfold expire at h
  split at h
  · cases h
    exact others_same rfl
  · cases h

theorem timerRead_others {callocOk : Bool} {k : Nat} (h : timerRead callocOk k s = some s') :
    Others s s' := by
  unfold timerRead at h
  split at h
  · cases h
    exact others_same rfl
  · cases h

theorem timerClear_others {k : Nat} (h : timerClear k s = some s') : Others s s' := by
  unfold timerClear at h
  split at h
  · cases h
    split
    · exact others_same rfl
    · rename_i i hFind
      exact (clearAsync_others i s).trans (others_same rfl)
  · cases h

theorem timerCall_others {k : Nat} (h : timerCall k s = some s') : Others s s' := by
  unfold timerCall at h
  split at h
  · cases h
    exact others_same rfl
  · cases h

/-! ### De-initialization -/

theorem drainRx_others (h : drainRx s = some s') : Others s s' := by
  unfold drainRx at h
  split at h
  · cases h
    exact others_same rfl
  · cases h

theorem drainTx_others (h : drainTx s = some s') : Others s s' := by
  unfold drainTx at h
  split at h
  · cases h
    refine ⟨rfl, rfl, fun _ => Or.inl rfl, ?_, fun _ h => Or.inl h, fun _ => Or.inl rfl, ?_,
      fun _ _ h => Or.inl h⟩
    · rintro k (hQueue | hRest)
      · exact absurd hQueue List.not_mem_nil
      · exact Or.inr hRest
    · intro k
      by_cases hMem : k ∈ s.rpcTxQ
      · exact Or.inr (Or.inl (Or.inl hMem))
      · left
        dsimp only
        rw [List.count_eq_zero.mpr hMem, Nat.add_zero]
  · cases h

theorem cleanupTables_others (h : cleanupTables s = some s') : Others s s' := by
  unfold cleanupTables at h
  split at h
  · cases h
    refine ⟨rfl, rfl, fun _ => Or.inl rfl, ?_, ?_, ?_, ?_, fun _ _ h => Or.inl h⟩
    · rintro k (hQueue | hTx | ⟨e, he, hItem⟩)
      · exact Or.inl hQueue
      · exact Or.inr (Or.inl hTx)
      · obtain ⟨-, -, rfl⟩ := List.mem_map.mp he
        rcases hItem with hItem | hItem | hItem <;> cases hItem
    · intro e he
      obtain ⟨-, -, rfl⟩ := List.mem_map.mp he
      exact Or.inr rfl
    · intro k
      dsimp only
      by_cases hEntry : (s.syncRspTable.any (·.item == some k)) = true
      · obtain ⟨e, he, hItem⟩ := List.any_eq_true.mp hEntry
        exact Or.inr (Or.inr ⟨if_pos hEntry, e, he, by simpa using hItem⟩)
      · exact Or.inl (if_neg hEntry)
    · intro k
      by_cases hCount : s.asyncRspTable.countP (·.item.appReq == some k) = 0
      · left
        dsimp only
        rw [hCount, Nat.add_zero]
      · obtain ⟨e, he, hReq⟩ := List.countP_pos_iff.mp (Nat.pos_of_ne_zero hCount)
        exact Or.inr (Or.inl (Or.inr (Or.inr ⟨e, he, Or.inr (Or.inr (by simpa using hReq))⟩)))
  · cases h

theorem cancelThreads_others (h : cancelThreads s = some s') : Others s s' := by
  unfold cancelThreads at h
  split at h
  · cases h
    exact others_tx rfl (Or.inr rfl) nofun
  · cases h

/-- The step is one of `rpc_send_req`, up to the point at which the request is queued. -/
def Action.sending : Action → Bool
  | .sendReq | .setSyncRespSem .. | .queueTx .. | .failReq _ => true
  | _ => false

theorem step_others {a : Action} (hOther : a.sending = false) (hStep : step cfg s a = some s') :
    Others s s' := by
  unfold step at hStep
  split at hStep
  · cases hStep
  · cases a with
    | sendReq | setSyncRespSem | queueTx | failReq => cases hOther
    | rpcTxInd => exact rpcTxInd_others hStep
    | readRspCb => exact readRspCb_others hStep
    | lookupSem => exact lookupSem_others hStep
    | takeSem => exact takeSem_others hStep
    | semTimeout => exact semTimeout_others hStep
    | clearSync => exact clearSync_others hStep
    | recvRx => exact recvRx_others hStep
    | freeReq => exact freeReq_others hStep
    | txTakeSem => exact txTakeSem_others hStep
    | recvTx => exact recvTx_others hStep
    | composeReq => exact composeReq_others hStep
    | startTimer => exact startTimer_others hStep
    | setAsyncRespCallback => exact setAsyncRespCallback_others hStep
    | serialSend => exact serialSend_others hStep
    | txCleanup => exact txCleanup_others hStep
    | notifyFail => exact notifyFail_others hStep
    | txPostSync => exact txPostSync_others hStep
    | failCleanup => exact failCleanup_others hStep
    | scanAsync => exact scanAsync_others hStep
    | recvResp => exact recvResp_others hStep
    | isAsyncAvailable => exact isAsyncAvailable_others hStep
    | callAsync => exact callAsync_others hStep
    | rxClearAsync => exact rxClearAsync_others hStep
    | queueRx => exact queueRx_others hStep
    | rxPostSync => exact rxPostSync_others hStep
    | expire => exact expire_others hStep
    | timerRead => exact timerRead_others hStep
    | timerClear => exact timerClear_others hStep
    | timerCall => exact timerCall_others hStep
    | drainRx => exact drainRx_others hStep
    | drainTx => exact drainTx_others hStep
    | cleanupTables => exact cleanupTables_others hStep
    | cancelThreads => exact cancelThreads_others hStep

/-! ## The response to a failed transmission -/

/-- A free slot has no semaphore, no request has the uid 0, and the response that the tx thread
makes has no other one. -/
structure Zeroed (s : Core) : Prop where
  born : ∀ k, s.next ≤ k → s.caller k = .unborn
  uid : ∀ k < s.next, s.uidOf k ≠ 0
  entry : ∀ e ∈ s.syncRspTable, e.uid = 0 → e.item = none
  posting : ∀ k resp, s.tx = .posting k resp → resp.uid = 0

theorem init_zeroed (cfg : Config) : Zeroed (init cfg) where
  born := fun _ _ => rfl
  uid := fun k hk => absurd hk (Nat.not_lt_zero k)
  entry := by
    intro e he _
    rw [List.eq_of_mem_replicate he]
  posting := nofun

theorem Zeroed.others (h : Zeroed s) (hOthers : Others s s') : Zeroed s' where
  born := by
    intro k hk
    rw [hOthers.next] at hk
    rcases hOthers.caller k with hEq | ⟨hOld, -⟩
    · rw [hEq, h.born k hk]
    · rw [h.born k hk] at hOld
      cases hOld
  uid := by
    intro k hk
    rw [hOthers.next] at hk
    rw [hOthers.uidOf]
    exact h.uid k hk
  entry := by
    intro e he hFree
    rcases hOthers.sync e he with hOld | rfl
    · exact h.entry e hOld hFree
    · rfl
  posting := by
    intro k resp hTx
    rcases hOthers.posting k resp hTx with hOld | hZero
    · exact h.posting k resp hOld
    · exact hZero

theorem born_update {next k : Nat} {caller : Nat → CallerPc} {pc : CallerPc}
    (h : ∀ j, next ≤ j → caller j = .unborn) (hBorn : caller k ≠ .unborn) (j : Nat)
    (hj : next ≤ j) : Function.update caller k pc j = .unborn := by
  have hNe : j ≠ k := fun hEq => hBorn (hEq ▸ h j hj)
  rw [Function.update_of_ne hNe]
  exact h j hj

theorem sendReq_zeroed (h : Zeroed s) (hStep : sendReq cfg s = some s') : Zeroed s' := by
  cases hStep
  refine ⟨?_, ?_, h.entry, h.posting⟩
  · intro k hk
    dsimp only at hk ⊢
    rw [Function.update_of_ne (by omega)]
    exact h.born k (by omega)
  · intro k hk
    dsimp only at hk ⊢
    by_cases hEq : k = s.next
    · rw [hEq, Function.update_self]
      exact s.nextUid_ne_zero
    · rw [Function.update_of_ne hEq]
      exact h.uid k (by omega)

theorem setSyncRespSem_zeroed {createOk : Bool} {k : Nat} (h : Zeroed s)
    (hStep : setSyncRespSem cfg createOk k s = some s') : Zeroed s' := by
  unfold setSyncRespSem at hStep
  split at hStep
  · rename_i hPc
    have hBorn : s.caller k ≠ .unborn := by rw [hPc]; nofun
    split at hStep
    · cases hStep
      exact ⟨born_update h.born hBorn, h.uid, h.entry, h.posting⟩
    · split at hStep
      · cases hStep
        exact ⟨born_update h.born hBorn, h.uid, h.entry, h.posting⟩
      · cases hStep
        refine ⟨born_update h.born hBorn, h.uid, ?_, h.posting⟩
        intro e he hFree
        rcases List.mem_or_eq_of_mem_set he with hOld | rfl
        · exact h.entry e hOld hFree
        · have hLt : k < s.next := by
            by_contra hLe
            exact hBorn (h.born k (by omega))
          exact absurd hFree (h.uid k hLt)
  · cases hStep

theorem queueTx_zeroed {ok : Bool} {k : Nat} (h : Zeroed s)
    (hStep : queueTx ok k s = some s') : Zeroed s' := by
  unfold queueTx at hStep
  split at hStep
  · rename_i hPc
    have hBorn : s.caller k ≠ .unborn := by rw [hPc]; nofun
    split at hStep
    · split at hStep
      · cases hStep
        exact ⟨born_update h.born hBorn, h.uid, h.entry, h.posting⟩
      · cases hStep
    · cases hStep
      exact ⟨born_update h.born hBorn, h.uid, h.entry, h.posting⟩
  · cases hStep

theorem failReq_zeroed {k : Nat} (h : Zeroed s) (hStep : failReq k s = some s') :
    Zeroed s' := by
  obtain ⟨hPc, rfl⟩ := failReq_some hStep
  have hBorn : s.caller k ≠ .unborn := by rw [hPc]; nofun
  exact ⟨born_update h.born hBorn, h.uid, h.entry, h.posting⟩

theorem step_zeroed {a : Action} (h : Zeroed s) (hStep : step cfg s a = some s') : Zeroed s' := by
  by_cases hOther : a.sending = false
  · exact h.others (step_others hOther hStep)
  · unfold step at hStep
    split at hStep
    · cases hStep
    · cases a with
      | sendReq => exact sendReq_zeroed h hStep
      | setSyncRespSem => exact setSyncRespSem_zeroed h hStep
      | queueTx => exact queueTx_zeroed h hStep
      | failReq => exact failReq_zeroed h hStep
      | _ => exact absurd rfl hOther

/-- A response with the uid 0 finds a free slot, or none at all. It gives no semaphore. -/
theorem postSync_zero (h : Zeroed s) {resp : Resp} (hZero : resp.uid = 0) :
    s.postSyncRespSem resp = s ∨ s.postSyncRespSem resp = { s with fault := true } := by
  unfold postSyncRespSem
  split
  · exact Or.inl rfl
  · rename_i i hFind
    obtain ⟨e, he, hUid⟩ := find_some hFind
    have hNone := h.entry e (List.mem_of_getElem? he) (hUid.trans hZero)
    rw [he, Option.bind_some, hNone]
    split
    · exact Or.inr rfl
    · exact Or.inl rfl

/-- The response of the failed request `k` wakes the caller of `k`, which waits for its semaphore,
and nobody else. -/
structure FailureReported (s : Core) (k : Nat) (resp : Resp) : Prop where
  woken : (s.postSyncRespSem resp).woken = s.woken ++ [k]
  given : (s.postSyncRespSem resp).sem k = .live true
  only : ∀ j ≠ k, (s.postSyncRespSem resp).sem j = s.sem j

/-- It never does: the response has no uid. -/
theorem not_failureReported (cfg : Config) {s : Core} {k : Nat} {resp : Resp}
    (hRun : Reaches (step cfg) anyStep (init cfg) s) (hTx : s.tx = .posting k resp) :
    ¬FailureReported s k resp := by
  have hZeroed := hRun.invariant (init_zeroed cfg) fun _ _ _ h _ hStep => step_zeroed h hStep
  intro hReported
  have hWoken := hReported.woken
  have hSame : (s.postSyncRespSem resp).woken = s.woken := by
    rcases postSync_zero hZeroed (hZeroed.posting k resp hTx) with hEq | hEq <;> rw [hEq]
  rw [hSame] at hWoken
  exact absurd hWoken (by simp)

/-- All requests are synchronous. -/
def onlySync : Config := { maxSync := 5, maxAsync := 5, app := fun _ => ⟨257, false⟩ }

/-- A request whose message cannot be composed. -/
def composeFails : List Action :=
  [.sendReq, .setSyncRespSem 0 true, .queueTx 0 true, .rpcTxInd 0, .readRspCb 0, .lookupSem 0,
    .txTakeSem, .recvTx, .composeReq false, .notifyFail true]

/-- The caller waits for a semaphore that is not given. -/
theorem not_failureReported_composeFails :
    ∃ s, Reaches (step onlySync) anyStep (init onlySync) s ∧ s.caller 0 = .waiting 0 (some 0) ∧
      ¬FailureReported s 0 ⟨513, 0⟩ := by
  have hRun : (run (step onlySync) (init onlySync) composeFails).map
      (fun s => (s.tx, s.caller 0)) = some (.posting 0 ⟨513, 0⟩, .waiting 0 (some 0)) := by
    decide +kernel
  obtain ⟨s, hs, hView⟩ := Option.map_eq_some_iff.mp hRun
  obtain ⟨hTx, hCaller⟩ := Prod.mk.inj hView
  exact ⟨s, .of_plain_run hs, hCaller, not_failureReported onlySync (.of_plain_run hs) hTx⟩

/-- `is_sync_resp_sem_available` finds a free slot, and `h_sem_give` gets a semaphore that is
`NULL`. -/
theorem failure_wakes_nobody :
    ¬∀ cfg s k resp, Reaches (step cfg) anyStep (init cfg) s → s.tx = .posting k resp →
      FailureReported s k resp := by
  intro h
  have hRun : (run (step onlySync) (init onlySync) composeFails).map
      (fun s => (s.tx, s.woken, (s.postSyncRespSem ⟨513, 0⟩).woken)) =
      some (.posting 0 ⟨513, 0⟩, [], []) := by decide +kernel
  obtain ⟨s, hs, hView⟩ := Option.map_eq_some_iff.mp hRun
  obtain ⟨hTx, hView⟩ := Prod.mk.inj hView
  obtain ⟨hOld, hNew⟩ := Prod.mk.inj hView
  have hWoken := (h onlySync s 0 ⟨513, 0⟩ (.of_plain_run hs) hTx).woken
  rw [hOld, hNew] at hWoken
  cases hWoken

/-! ## Failed calls of `rpc_send_req` -/

/-- What a request that is not queued yet may have: a slot only between its registration and the
queue, a semaphore until it has failed, and nothing that points to it elsewhere. -/
structure Sending (cfg : Config) (s : Core) : Prop where
  born : ∀ k, s.next ≤ k → s.caller k = .unborn
  kind : ∀ k, s.caller k = .registering → (cfg.app k).async = false
  mentioned : ∀ k, s.Mentions k → (s.caller k).queued = true
  entry : ∀ e ∈ s.syncRspTable, ∀ k, e.item = some k →
    (cfg.app k).async = false ∧ ((s.caller k).queued = true ∨ s.caller k = .queueing)
  used : ∀ e ∈ s.syncRspTable, e.uid ≠ 0 → ∃ k, e.item = some k
  noSem : ∀ k, (cfg.app k).async = true ∨ s.caller k = .unborn ∨ s.caller k = .registering →
    s.sem k = .absent
  failing : ∀ k, s.caller k = .failing → s.sem k ≠ .deleted
  failed : ∀ k, s.caller k = .failed → ∀ b, s.sem k ≠ .live b
  unfreed : ∀ k, (s.caller k).queued = false → s.caller k ≠ .failed → s.freed k = 0
  freed : ∀ k, s.caller k = .failed → s.freed k = 1

theorem init_sending (cfg : Config) : Sending cfg (init cfg) where
  born := fun _ _ => rfl
  kind := nofun
  mentioned := by
    rintro k (hQueue | hTx | ⟨e, he, hItem⟩)
    · cases hQueue
    · cases hTx
    · rw [List.eq_of_mem_replicate he] at hItem
      rcases hItem with hItem | hItem | hItem <;> cases hItem
  entry := by
    intro e he k hItem
    rw [List.eq_of_mem_replicate he] at hItem
    cases hItem
  used := by
    intro e he hUid
    rw [List.eq_of_mem_replicate he] at hUid
    exact absurd rfl hUid
  noSem := fun _ _ => rfl
  failing := nofun
  failed := nofun
  unfreed := fun _ _ _ => rfl
  freed := nofun

/-- A caller that is not queued is where it was. -/
theorem Others.caller_eq (h : Others s s') {k : Nat} (hOut : (s'.caller k).queued = false) :
    s'.caller k = s.caller k := by
  rcases h.caller k with hEq | ⟨-, hNew⟩
  · exact hEq
  · rw [hOut] at hNew
    cases hNew

theorem Sending.others (h : Sending cfg s) (hOthers : Others s s') : Sending cfg s' := by
  have hCaller (k : Nat) (pc : CallerPc) (hPc : s'.caller k = pc) (hOut : pc.queued = false) :
      s.caller k = pc := by
    rw [← hOthers.caller_eq (by rw [hPc]; exact hOut), hPc]
  have hQueued (k : Nat) (hOld : (s.caller k).queued = true) : (s'.caller k).queued = true := by
    rcases hOthers.caller k with hEq | ⟨-, hNew⟩
    · rwa [hEq]
    · exact hNew
  have hGone (k : Nat) (hEntry : ∃ e ∈ s.syncRspTable, e.item = some k) :
      (cfg.app k).async = false ∧ ((s.caller k).queued = true ∨ s.caller k = .queueing) := by
    obtain ⟨e, he, hItem⟩ := hEntry
    exact h.entry e he k hItem
  have hFreed (k : Nat) (hOut : (s'.caller k).queued = false) : s'.freed k = s.freed k := by
    have hEq := hOthers.caller_eq hOut
    rcases hOthers.freed k with hSame | hMentions | hIn
    · exact hSame
    · have hIn := h.mentioned k hMentions
      rw [← hEq, hOut] at hIn
      cases hIn
    · rw [← hEq, hOut] at hIn
      cases hIn
  refine ⟨?_, ?_, ?_, ?_, ?_, ?_, ?_, ?_, ?_, ?_⟩
  · intro k hk
    rw [hOthers.next] at hk
    have hUnborn := h.born k hk
    rcases hOthers.caller k with hEq | ⟨hOld, -⟩
    · rw [hEq, hUnborn]
    · rw [hUnborn] at hOld
      cases hOld
  · exact fun k hPc => h.kind k (hCaller k _ hPc rfl)
  · exact fun k hk => hQueued k (h.mentioned k (hOthers.mentions k hk))
  · intro e he k hItem
    rcases hOthers.sync e he with hOld | rfl
    · obtain ⟨hSync, hPlace⟩ := h.entry e hOld k hItem
      refine ⟨hSync, ?_⟩
      rcases hPlace with hIn | hAt
      · exact Or.inl (hQueued k hIn)
      · rcases hOthers.caller k with hEq | ⟨-, hNew⟩
        · exact Or.inr (hEq.trans hAt)
        · exact Or.inl hNew
    · cases hItem
  · intro e he hUid
    rcases hOthers.sync e he with hOld | rfl
    · exact h.used e hOld hUid
    · exact absurd rfl hUid
  · intro k hk
    have hOld : (cfg.app k).async = true ∨ s.caller k = .unborn ∨ s.caller k = .registering :=
      hk.imp_right (Or.imp (hCaller k _ · rfl) (hCaller k _ · rfl))
    have hAbsent := h.noSem k hOld
    rcases hOthers.sem k with hEq | ⟨b, -, hLive, -⟩ | ⟨-, hEntry⟩
    · rw [hEq, hAbsent]
    · rw [hAbsent] at hLive
      cases hLive
    · obtain ⟨hSync, hPlace⟩ := hGone k hEntry
      rcases hOld with hAsync | hPc | hPc
      · rw [hSync] at hAsync
        cases hAsync
      · rw [hPc] at hPlace
        rcases hPlace with hPlace | hPlace <;> cases hPlace
      · rw [hPc] at hPlace
        rcases hPlace with hPlace | hPlace <;> cases hPlace
  · intro k hPc
    have hOld := hCaller k _ hPc rfl
    rcases hOthers.sem k with hEq | ⟨-, b, -, hLive⟩ | ⟨-, hEntry⟩
    · rw [hEq]
      exact h.failing k hOld
    · rw [hLive]
      nofun
    · have hPlace := (hGone k hEntry).2
      rw [hOld] at hPlace
      rcases hPlace with hPlace | hPlace <;> cases hPlace
  · intro k hPc b
    have hOld := hCaller k _ hPc rfl
    rcases hOthers.sem k with hEq | ⟨c, -, hLive, -⟩ | ⟨hDeleted, -⟩
    · rw [hEq]
      exact h.failed k hOld b
    · exact absurd hLive (h.failed k hOld c)
    · rw [hDeleted]
      nofun
  · intro k hOut hNe
    have hEq := hOthers.caller_eq hOut
    rw [hFreed k hOut]
    exact h.unfreed k (hEq ▸ hOut) (hEq ▸ hNe)
  · intro k hPc
    rw [hFreed k (by rw [hPc]; rfl)]
    exact h.freed k (hCaller k _ hPc rfl)

theorem sendReq_sending (h : Sending cfg s) (hStep : sendReq cfg s = some s') :
    Sending cfg s' := by
  cases hStep
  have hUnborn := h.born s.next (Nat.le_refl _)
  have hNew : ∀ k, (Function.update s.caller s.next
      (if (cfg.app s.next).async then .queueing else .registering) k).queued = true ↔
      (s.caller k).queued = true := by
    intro k
    by_cases hEq : k = s.next
    · subst hEq
      rw [Function.update_self, hUnborn]
      split <;> exact iff_of_false nofun nofun
    · rw [Function.update_of_ne hEq]
  refine ⟨?_, ?_, fun k hk => (hNew k).mpr (h.mentioned k hk), ?_, h.used, ?_, ?_, ?_, ?_, ?_⟩
  · intro k hk
    dsimp only at hk ⊢
    rw [Function.update_of_ne (by omega)]
    exact h.born k (by omega)
  · intro k hPc
    dsimp only at hPc
    by_cases hEq : k = s.next
    · subst hEq
      rw [Function.update_self] at hPc
      split at hPc
      · cases hPc
      · rename_i hSync
        simpa using hSync
    · rw [Function.update_of_ne hEq] at hPc
      exact h.kind k hPc
  · intro e he k hItem
    obtain ⟨hSync, hPlace⟩ := h.entry e he k hItem
    refine ⟨hSync, hPlace.imp (hNew k).mpr ?_⟩
    intro hAt
    have hNe : k ≠ s.next := fun hEq => by rw [hEq, hUnborn] at hAt; cases hAt
    dsimp only
    rwa [Function.update_of_ne hNe]
  · intro k hk
    by_cases hEq : k = s.next
    · exact h.noSem k (Or.inr (Or.inl (hEq ▸ hUnborn)))
    · dsimp only at hk
      rw [Function.update_of_ne hEq] at hk
      exact h.noSem k hk
  · intro k hPc
    dsimp only at hPc
    by_cases hEq : k = s.next
    · subst hEq
      rw [Function.update_self] at hPc
      split at hPc <;> cases hPc
    · rw [Function.update_of_ne hEq] at hPc
      exact h.failing k hPc
  · intro k hPc
    dsimp only at hPc
    by_cases hEq : k = s.next
    · subst hEq
      rw [Function.update_self] at hPc
      split at hPc <;> cases hPc
    · rw [Function.update_of_ne hEq] at hPc
      exact h.failed k hPc
  · intro k hOut hNe
    by_cases hEq : k = s.next
    · subst hEq
      exact h.unfreed s.next (by rw [hUnborn]; rfl) (by rw [hUnborn]; nofun)
    · dsimp only at hOut hNe
      rw [Function.update_of_ne hEq] at hOut hNe
      exact h.unfreed k hOut hNe
  · intro k hPc
    dsimp only at hPc
    by_cases hEq : k = s.next
    · subst hEq
      rw [Function.update_self] at hPc
      split at hPc <;> cases hPc
    · rw [Function.update_of_ne hEq] at hPc
      exact h.freed k hPc

/-- The caller of `k` goes on from one place in `rpc_send_req` to another. -/
theorem Sending.move (h : Sending cfg s) {k : Nat} {pc : CallerPc}
    (hBorn : s.caller k ≠ .unborn) (hOut : (s.caller k).queued = false)
    (hPc : pc = .failing ∨ pc = .queueing) (hOld : s.caller k ≠ .failed)
    (hEntry : ∀ e ∈ s.syncRspTable, e.item = some k → pc = .queueing)
    (hSem : pc = .failing → s.sem k ≠ .deleted) : Sending cfg (s.setCaller k pc) := by
  have hNotIn : pc.queued = false := by rcases hPc with rfl | rfl <;> rfl
  have hCaller (j : Nat) (hNe : j ≠ k) : (s.setCaller k pc).caller j = s.caller j :=
    Function.update_of_ne hNe _ _
  have hSelf : (s.setCaller k pc).caller k = pc := Function.update_self ..
  refine ⟨born_update h.born hBorn, ?_, ?_, ?_, h.used, ?_, ?_, ?_, ?_, ?_⟩
  · intro j hj
    by_cases hEq : j = k
    · subst hEq
      rw [hSelf] at hj
      rcases hPc with rfl | rfl <;> cases hj
    · exact h.kind j ((hCaller j hEq).symm.trans hj)
  · intro j hj
    have hIn := h.mentioned j hj
    by_cases hEq : j = k
    · subst hEq
      rw [hOut] at hIn
      cases hIn
    · rwa [hCaller j hEq]
  · intro e he j hItem
    obtain ⟨hSync, hPlace⟩ := h.entry e he j hItem
    refine ⟨hSync, ?_⟩
    by_cases hEq : j = k
    · subst hEq
      rw [hSelf]
      exact Or.inr (hEntry e he hItem)
    · rwa [hCaller j hEq]
  · intro j hj
    by_cases hEq : j = k
    · subst hEq
      rw [hSelf] at hj
      rcases hj with hAsync | hj | hj
      · exact h.noSem j (Or.inl hAsync)
      · rcases hPc with rfl | rfl <;> cases hj
      · rcases hPc with rfl | rfl <;> cases hj
    · rw [hCaller j hEq] at hj
      exact h.noSem j hj
  · intro j hj
    by_cases hEq : j = k
    · subst hEq
      rw [hSelf] at hj
      exact hSem hj
    · exact h.failing j ((hCaller j hEq).symm.trans hj)
  · intro j hj
    by_cases hEq : j = k
    · subst hEq
      rw [hSelf] at hj
      rcases hPc with rfl | rfl <;> cases hj
    · exact h.failed j ((hCaller j hEq).symm.trans hj)
  · intro j hj hNe
    by_cases hEq : j = k
    · subst hEq
      exact h.unfreed j hOut hOld
    · rw [hCaller j hEq] at hj hNe
      exact h.unfreed j hj hNe
  · intro j hj
    by_cases hEq : j = k
    · subst hEq
      rw [hSelf] at hj
      rcases hPc with rfl | rfl <;> cases hj
    · exact h.freed j ((hCaller j hEq).symm.trans hj)

/-- A semaphore is created for a request that is being registered. -/
theorem Sending.createSem (h : Sending cfg s) {k : Nat} (hPc : s.caller k = .registering) :
    s.sem k = .absent ∧ (cfg.app k).async = false :=
  ⟨h.noSem k (Or.inr (Or.inr hPc)), h.kind k hPc⟩

theorem setSyncRespSem_sending {createOk : Bool} {k : Nat} (h : Sending cfg s)
    (hStep : setSyncRespSem cfg createOk k s = some s') : Sending cfg s' := by
  unfold setSyncRespSem at hStep
  split at hStep
  · rename_i hPc
    have hBorn : s.caller k ≠ .unborn := by rw [hPc]; nofun
    have hOut : (s.caller k).queued = false := by rw [hPc]; rfl
    have hOld : s.caller k ≠ .failed := by rw [hPc]; nofun
    obtain ⟨hAbsent, hSync⟩ := h.createSem hPc
    have hNone : ∀ e ∈ s.syncRspTable, e.item ≠ some k := by
      intro e he hItem
      have hPlace := (h.entry e he k hItem).2
      rw [hPc] at hPlace
      rcases hPlace with hPlace | hPlace <;> cases hPlace
    have hFail : Sending cfg (s.setCaller k .failing) :=
      h.move hBorn hOut (Or.inl rfl) hOld (fun e he hItem => absurd hItem (hNone e he))
        (fun _ => by rw [hAbsent]; nofun)
    have hGo : Sending cfg (s.setCaller k .queueing) :=
      h.move hBorn hOut (Or.inr rfl) hOld (fun _ _ _ => rfl) nofun
    -- the new semaphore, in a state that is otherwise `t`
    have hSem (t : Core) (ht : Sending cfg t)
        (hNot : t.caller k = .failing ∨ t.caller k = .queueing) :
        Sending cfg { t with sem := Function.update t.sem k (.live false) } := by
      refine ⟨ht.born, ht.kind, ht.mentioned, ht.entry, ht.used, ?_, ?_, ?_, ht.unfreed, ht.freed⟩
      · intro j hj
        by_cases hEq : j = k
        · subst hEq
          rcases hj with hAsync | hj | hj
          · rw [hSync] at hAsync
            cases hAsync
          · have hj : t.caller j = .unborn := hj
            rw [hj] at hNot
            rcases hNot with hNot | hNot <;> cases hNot
          · have hj : t.caller j = .registering := hj
            rw [hj] at hNot
            rcases hNot with hNot | hNot <;> cases hNot
        · dsimp only
          rw [Function.update_of_ne hEq]
          exact ht.noSem j hj
      · intro j hj
        by_cases hEq : j = k
        · subst hEq
          dsimp only
          rw [Function.update_self]
          nofun
        · dsimp only
          rw [Function.update_of_ne hEq]
          exact ht.failing j hj
      · intro j hj b
        by_cases hEq : j = k
        · subst hEq
          have hj : t.caller j = .failed := hj
          rw [hj] at hNot
          rcases hNot with hNot | hNot <;> cases hNot
        · dsimp only
          rw [Function.update_of_ne hEq]
          exact ht.failed j hj b
    split at hStep
    · cases hStep
      exact ⟨hFail.born, hFail.kind, hFail.mentioned, hFail.entry, hFail.used, hFail.noSem,
        hFail.failing, hFail.failed, hFail.unfreed, hFail.freed⟩
    · split at hStep
      · have hNew := hSem _ hFail (Or.inl (Function.update_self ..))
        cases hStep
        exact ⟨hNew.born, hNew.kind, hNew.mentioned, hNew.entry, hNew.used, hNew.noSem,
          hNew.failing, hNew.failed, hNew.unfreed, hNew.freed⟩
      · have hNew := hSem _ hGo (Or.inr (Function.update_self ..))
        cases hStep
        refine ⟨hNew.born, hNew.kind, hNew.mentioned, ?_, ?_, hNew.noSem, hNew.failing,
          hNew.failed, hNew.unfreed, hNew.freed⟩
        · intro e he j hItem
          rcases List.mem_or_eq_of_mem_set he with hOldEntry | rfl
          · exact hNew.entry e hOldEntry j hItem
          · cases hItem
            exact ⟨hSync, Or.inr (Function.update_self ..)⟩
        · intro e he hUid
          rcases List.mem_or_eq_of_mem_set he with hOldEntry | rfl
          · exact hNew.used e hOldEntry hUid
          · exact ⟨k, rfl⟩
  · cases hStep

/-- `rpc_tx_q` refuses asynchronous requests only. -/
def QueueTakesSync (cfg : Config) (_ : Core) : Action → Prop
  | .queueTx k false => (cfg.app k).async = true
  | _ => True

instance (cfg : Config) (s : Core) (a : Action) : Decidable (QueueTakesSync cfg s a) := by
  unfold QueueTakesSync
  split <;> infer_instance

theorem queueTx_sending {ok : Bool} {k : Nat} (h : Sending cfg s)
    (hTakes : QueueTakesSync cfg s (.queueTx k ok)) (hStep : queueTx ok k s = some s') :
    Sending cfg s' := by
  unfold queueTx at hStep
  split at hStep
  · rename_i hPc
    have hBorn : s.caller k ≠ .unborn := by rw [hPc]; nofun
    have hOut : (s.caller k).queued = false := by rw [hPc]; rfl
    cases ok with
    | false =>
      have hAsync : (cfg.app k).async = true := hTakes
      cases hStep
      apply h.move hBorn hOut (Or.inl rfl) (by rw [hPc]; nofun)
      · intro e he hItem
        have hSync := (h.entry e he k hItem).1
        rw [hAsync] at hSync
        cases hSync
      · intro _
        rw [h.noSem k (Or.inl hAsync)]
        nofun
    | true =>
      rw [if_pos rfl] at hStep
      split at hStep
      · cases hStep
        have hCaller (j : Nat) (hNe : j ≠ k) :
            Function.update s.caller k .indicating j = s.caller j := Function.update_of_ne hNe _ _
        have hNot (j : Nat) (pc : CallerPc) (hNe : pc ≠ .indicating)
            (hj : Function.update s.caller k .indicating j = pc) : s.caller j = pc := by
          by_cases hEq : j = k
          · subst hEq
            rw [Function.update_self] at hj
            exact absurd hj.symm hNe
          · rwa [hCaller j hEq] at hj
        have hIn (j : Nat) (hj : (s.caller j).queued = true) :
            (Function.update s.caller k .indicating j).queued = true := by
          by_cases hEq : j = k
          · subst hEq
            rw [Function.update_self]
            rfl
          · rwa [hCaller j hEq]
        refine ⟨born_update h.born hBorn, ?_, ?_, ?_, h.used, ?_, ?_, ?_, ?_, ?_⟩
        · exact fun j hj => h.kind j (hNot j _ nofun hj)
        · rintro j (hQueue | hRest)
          · rcases List.mem_append.mp hQueue with hOldQueue | hNew
            · exact hIn j (h.mentioned j (Or.inl hOldQueue))
            · obtain rfl := List.mem_singleton.mp hNew
              show (Function.update s.caller j .indicating j).queued = true
              rw [Function.update_self]
              rfl
          · exact hIn j (h.mentioned j (Or.inr hRest))
        · intro e he j hItem
          obtain ⟨hSync, hPlace⟩ := h.entry e he j hItem
          refine ⟨hSync, ?_⟩
          rcases hPlace with hPlace | hPlace
          · exact Or.inl (hIn j hPlace)
          · by_cases hEq : j = k
            · subst hEq
              left
              show (Function.update s.caller j .indicating j).queued = true
              rw [Function.update_self]
              rfl
            · exact Or.inr ((hCaller j hEq).trans hPlace)
        · exact fun j hj => h.noSem j (hj.imp_right (Or.imp (hNot j _ nofun) (hNot j _ nofun)))
        · exact fun j hj => h.failing j (hNot j _ nofun hj)
        · exact fun j hj => h.failed j (hNot j _ nofun hj)
        · intro j hj hNe
          by_cases hEq : j = k
          · subst hEq
            exact h.unfreed j hOut (by rw [hPc]; nofun)
          · have hSame := hCaller j hEq
            exact h.unfreed j (hSame ▸ hj) (hSame ▸ hNe)
        · exact fun j hj => h.freed j (hNot j _ nofun hj)
      · cases hStep
  · cases hStep

theorem failReq_sending {k : Nat} (h : Sending cfg s) (hStep : failReq k s = some s') :
    Sending cfg s' := by
  obtain ⟨hPc, rfl⟩ := failReq_some hStep
  have hBorn : s.caller k ≠ .unborn := by rw [hPc]; nofun
  have hOut : (s.caller k).queued = false := by rw [hPc]; rfl
  have hOnce := h.unfreed k hOut (by rw [hPc]; nofun)
  have hLive := h.failing k hPc
  have hCaller (j : Nat) (hNe : j ≠ k) :
      Function.update s.caller k .failed j = s.caller j := Function.update_of_ne hNe _ _
  have hNot (j : Nat) (pc : CallerPc) (hNe : pc ≠ .failed)
      (hj : Function.update s.caller k .failed j = pc) : s.caller j = pc := by
    by_cases hEq : j = k
    · subst hEq
      rw [Function.update_self] at hj
      exact absurd hj.symm hNe
    · rwa [hCaller j hEq] at hj
  have hIn (j : Nat) (hj : (s.caller j).queued = true) :
      (Function.update s.caller k .failed j).queued = true := by
    by_cases hEq : j = k
    · subst hEq
      rw [hOut] at hj
      cases hj
    · rwa [hCaller j hEq]
  have hSem (j : Nat) (hNe : j ≠ k) :
      (if s.sem k = .absent then s.sem else Function.update s.sem k .deleted) j = s.sem j := by
    split
    · rfl
    · exact Function.update_of_ne hNe _ _
  refine ⟨born_update h.born hBorn, ?_, ?_, ?_, h.used, ?_, ?_, ?_, ?_, ?_⟩
  · exact fun j hj => h.kind j (hNot j _ nofun hj)
  · exact fun j hj => hIn j (h.mentioned j hj)
  · intro e he j hItem
    obtain ⟨hSync, hPlace⟩ := h.entry e he j hItem
    refine ⟨hSync, hPlace.imp (hIn j) ?_⟩
    intro hAt
    have hNe : j ≠ k := fun hEq => by rw [hEq, hPc] at hAt; cases hAt
    exact (hCaller j hNe).trans hAt
  · intro j hj
    have hAbsent := h.noSem j (hj.imp_right (Or.imp (hNot j _ nofun) (hNot j _ nofun)))
    by_cases hEq : j = k
    · subst hEq
      dsimp only
      rw [if_pos hAbsent]
      exact hAbsent
    · exact (hSem j hEq).trans hAbsent
  · intro j hj
    have hNe : j ≠ k := by
      intro hEq
      subst hEq
      have hj : Function.update s.caller j .failed j = .failing := hj
      rw [Function.update_self] at hj
      cases hj
    dsimp only
    rw [hSem j hNe]
    exact h.failing j (hNot j _ nofun hj)
  · intro j hj b
    by_cases hEq : j = k
    · subst hEq
      dsimp only
      split
      · rename_i hAbsent
        rw [hAbsent]
        nofun
      · rw [Function.update_self]
        nofun
    · dsimp only
      rw [hSem j hEq]
      exact h.failed j ((hCaller j hEq).symm.trans hj) b
  · intro j hj hNe
    have hEq : j ≠ k := by
      intro hEq
      subst hEq
      exact hNe (Function.update_self ..)
    show Function.update s.freed k _ j = 0
    rw [Function.update_of_ne hEq]
    exact h.unfreed j (hCaller j hEq ▸ hj) (hCaller j hEq ▸ hNe)
  · intro j hj
    by_cases hEq : j = k
    · subst hEq
      show Function.update s.freed j (s.freed j + 1) j = 1
      rw [Function.update_self, hOnce]
    · show Function.update s.freed k _ j = 1
      rw [Function.update_of_ne hEq]
      exact h.freed j ((hCaller j hEq).symm.trans hj)

theorem step_sending {a : Action} (h : Sending cfg s) (hTakes : QueueTakesSync cfg s a)
    (hStep : step cfg s a = some s') : Sending cfg s' := by
  by_cases hOther : a.sending = false
  · exact h.others (step_others hOther hStep)
  · unfold step at hStep
    split at hStep
    · cases hStep
    · cases a with
      | sendReq => exact sendReq_sending h hStep
      | setSyncRespSem => exact setSyncRespSem_sending h hStep
      | queueTx => exact queueTx_sending h hTakes hStep
      | failReq => exact failReq_sending h hStep
      | _ => exact absurd rfl hOther

/-- The call of `rpc_send_req` for `k` fails, or has failed. -/
def CallFails (s : Core) (k : Nat) : Prop := s.caller k = .failing ∨ s.caller k = .failed

/-- The request that a step of `rpc_send_req` is for, once it has a number. -/
def Action.request : Action → Option Nat
  | .setSyncRespSem k _ | .queueTx k _ | .failReq k => some k
  | _ => none

/-- Calls that fail leave the tables as they were. Their semaphores are deleted and their requests
freed, once each. -/
structure FailsClean (cfg : Config) (s : Core) : Prop where
  tables : ∀ a k s', a.request = some k → step cfg s a = some s' → s'.CallFails k →
    s'.syncRspTable = s.syncRspTable ∧ s'.asyncRspTable = s.asyncRspTable
  noSlot : ∀ k, s.CallFails k → ∀ e ∈ s.syncRspTable, e.item ≠ some k
  noCallback : ∀ k, s.CallFails k → ∀ e ∈ s.asyncRspTable,
    e.item.cb ≠ some k ∧ e.item.timerHdl ≠ some k ∧ e.item.appReq ≠ some k
  occupied : ∀ e ∈ s.syncRspTable, e.uid ≠ 0 → ∃ k, e.item = some k ∧ ¬s.CallFails k
  semOnce : ∀ k, s.caller k = .failing → s.sem k ≠ .deleted
  semGone : ∀ k, s.caller k = .failed → s.sem k = .absent ∨ s.sem k = .deleted
  freedOnce : ∀ k, s.caller k = .failed → s.freed k = 1

theorem callFails_tables {a : Action} {k : Nat} (hRequest : a.request = some k)
    (hStep : step cfg s a = some s') (hFails : s'.CallFails k) :
    s'.syncRspTable = s.syncRspTable ∧ s'.asyncRspTable = s.asyncRspTable := by
  unfold step at hStep
  split at hStep
  · cases hStep
  · cases a with
    | setSyncRespSem j createOk =>
      obtain rfl := Option.some.inj hRequest
      simp only [setSyncRespSem] at hStep
      split at hStep
      · split at hStep
        · cases hStep
          exact ⟨rfl, rfl⟩
        · split at hStep
          · cases hStep
            exact ⟨rfl, rfl⟩
          · cases hStep
            -- the slot is taken, and the call goes on
            have hPc : Function.update s.caller j .queueing j = .queueing :=
              Function.update_self ..
            rcases hFails with hFails | hFails
            · exact absurd (hPc.symm.trans hFails) nofun
            · exact absurd (hPc.symm.trans hFails) nofun
      · cases hStep
    | queueTx j ok =>
      simp only [queueTx] at hStep
      split at hStep
      · split at hStep
        · split at hStep
          · cases hStep
            exact ⟨rfl, rfl⟩
          · cases hStep
        · cases hStep
          exact ⟨rfl, rfl⟩
      · cases hStep
    | failReq j =>
      simp only [failReq] at hStep
      split at hStep
      · cases hStep
        exact ⟨rfl, rfl⟩
      · cases hStep
    | _ => cases hRequest

theorem Sending.failsClean (h : Sending cfg s) : FailsClean cfg s := by
  have hOut (k : Nat) (hFails : s.CallFails k) : (s.caller k).queued = false := by
    rcases hFails with hPc | hPc <;> rw [hPc] <;> rfl
  have hNoSlot (k : Nat) (hFails : s.CallFails k) : ∀ e ∈ s.syncRspTable, e.item ≠ some k := by
    intro e he hItem
    rcases (h.entry e he k hItem).2 with hIn | hAt
    · rw [hOut k hFails] at hIn
      cases hIn
    · rcases hFails with hPc | hPc
      · exact absurd (hAt.symm.trans hPc) nofun
      · exact absurd (hAt.symm.trans hPc) nofun
  refine ⟨fun a k s' hRequest hStep hFails => callFails_tables hRequest hStep hFails, hNoSlot, ?_,
    ?_, h.failing, ?_, h.freed⟩
  · intro k hFails e he
    have hNot : ¬(e.item.cb = some k ∨ e.item.timerHdl = some k ∨ e.item.appReq = some k) := by
      intro hItem
      have hIn := h.mentioned k (Or.inr (Or.inr ⟨e, he, hItem⟩))
      rw [hOut k hFails] at hIn
      cases hIn
    exact ⟨fun hCb => hNot (Or.inl hCb), fun hTimer => hNot (Or.inr (Or.inl hTimer)),
      fun hReq => hNot (Or.inr (Or.inr hReq))⟩
  · intro e he hUid
    obtain ⟨k, hItem⟩ := h.used e he hUid
    exact ⟨k, hItem, fun hFails => hNoSlot k hFails e he hItem⟩
  · intro k hPc
    cases hSem : s.sem k with
    | absent => exact Or.inl rfl
    | live b => exact absurd hSem (h.failed k hPc b)
    | deleted => exact Or.inr rfl

theorem failsClean_of_reaches (cfg : Config) {s : Core}
    (hRun : Reaches (step cfg) (QueueTakesSync cfg) (init cfg) s) : FailsClean cfg s :=
  (hRun.invariant (init_sending cfg) fun _ _ _ h hTakes hStep =>
    step_sending h hTakes hStep).failsClean

/-- One slot for synchronous requests; every third request has a callback. -/
def oneSlot : Config := { maxSync := 1, maxAsync := 1, app := fun k => ⟨257, k % 3 = 2⟩ }

/-- The first request gets the slot, the second one none, and the third one, which has a callback,
is not queued. -/
def threeCalls : List Action :=
  [.sendReq, .sendReq, .sendReq, .setSyncRespSem 0 true, .queueTx 0 true, .setSyncRespSem 1 true,
    .failReq 1, .queueTx 2 false, .failReq 2]

theorem failsClean_threeCalls :
    ∃ s, Reaches (step oneSlot) (QueueTakesSync oneSlot) (init oneSlot) s ∧
      (s.caller 1, s.caller 2, s.sem 1) = (.failed, .failed, .deleted) ∧ FailsClean oneSlot s := by
  have hRun : (runGuarded (step oneSlot) (QueueTakesSync oneSlot) (init oneSlot) threeCalls).map
      (fun s => (s.caller 1, s.caller 2, s.sem 1)) = some (.failed, .failed, .deleted) := by
    decide +kernel
  obtain ⟨s, hs, hView⟩ := Option.map_eq_some_iff.mp hRun
  exact ⟨s, .of_run hs, hView, failsClean_of_reaches oneSlot (.of_run hs)⟩

/-- `rpc_tx_q` does not take a synchronous request, whose slot is never given back. -/
theorem slot_of_failed_call :
    ¬∀ cfg s, Reaches (step cfg) anyStep (init cfg) s → FailsClean cfg s := by
  intro h
  have hRun : (run (step onlySync) (init onlySync)
      [.sendReq, .setSyncRespSem 0 true, .queueTx 0 false, .failReq 0]).map
      (fun s => (s.caller 0, s.syncRspTable[0]?.map (·.item))) =
      some (.failed, some (some 0)) := by decide +kernel
  obtain ⟨s, hs, hView⟩ := Option.map_eq_some_iff.mp hRun
  obtain ⟨hCaller, hItem⟩ := Prod.mk.inj hView
  obtain ⟨e, he, hItem⟩ := Option.map_eq_some_iff.mp hItem
  exact (h onlySync s (.of_plain_run hs)).noSlot 0 (Or.inr hCaller) e
    (List.mem_of_getElem? he) hItem

end EspHosted.Rpc.Core
