import EspHosted.Rpc.Simulation

/-!
# Responses and table entries

A response is matched with an entry by its uid, and 0 is both the uid of a free entry and a
uid that a response can have.

* `careful_invariant`: what a run of `Core` of careful steps keeps;
* `matched`: along such steps, with one thread at a time at a table, a response that is matched
  belongs to a request that registered the entry with its uid and is still waiting, and no uid other
  than 0 is twice in the tables;
* `not_matched`: a response with the uid 0 is matched with an empty entry.
-/

namespace EspHosted.Rpc

open Slots Machine

/-- The thread is behind its registration and has not cleared its entry, which is entry `i` if
it has found it already. -/
def CallerPc.holds (i : Nat) : CallerPc → Bool
  | .queueing | .indicating | .returned | .lookup => true
  | .waiting j _ | .taken j _ => j == i
  | _ => false

namespace Core

variable {cfg : Config} {s s' : Core}

/-! ## The condition -/

/-- No free entry of `sync_rsp_table` is taken for that of the response. -/
def Addressed (s : Core) (resp : Resp) : Prop :=
  resp.InRange → resp.uid ≠ 0 ∨ ¬ Has s.syncRspTable 0

instance (s : Core) (resp : Resp) : Decidable (Addressed s resp) :=
  inferInstanceAs (Decidable (_ → _))

/-- In addition to `Timely`: a response with the uid 0, be it received or made up by the tx
thread, finds no empty entry, and a synchronous request that is registered gets into
`rpc_tx_q`. -/
def Careful (cfg : Config) (s : Core) : Action → Prop
  | .queueTx k ok => ok = true ∨ (cfg.app k).async = true
  | .callAsync => ∀ resp ∈ s.rx.called, resp.uid ≠ 0 ∨ ¬ Has s.asyncRspTable 0
  | .rxPostSync => ∀ resp ∈ s.rx.posted, Addressed s resp
  | .txPostSync => ∀ resp ∈ s.tx.posted, Addressed s resp
  | a => Timely cfg s a

instance (cfg : Config) (s : Core) (a : Action) : Decidable (Careful cfg s a) := by
  apply Action.casesOn (motive := fun a => Decidable (Careful cfg s a)) a <;> intros <;>
    unfold Careful <;> infer_instance

theorem Careful.timely {a : Action} (h : Careful cfg s a) : Timely cfg s a := by
  cases a <;> first | exact h | trivial

/-! ## Synchronous requests -/

/-- Where nothing happens to the synchronous requests. -/
def Action.elsewhere : Action → Bool
  | .txTakeSem | .recvTx | .composeReq _ | .startTimer _ | .setAsyncRespCallback | .serialSend _
  | .txCleanup | .notifyFail _ | .failCleanup | .scanAsync | .recvResp _ | .isAsyncAvailable
  | .callAsync | .rxClearAsync | .queueRx | .expire _ | .timerRead .. | .timerClear _
  | .timerCall _ | .drainRx | .drainTx | .cancelThreads => true
  | _ => false

/-- What the statements about synchronous requests read. -/
def syncView (s : Core) :
    List (Slot (Option Nat)) × (Nat → Nat) × (Nat → CallerPc) × (Nat → Sem) :=
  (s.syncRspTable, s.uidOf, s.caller, s.sem)

theorem clearAsync_syncView (i : Nat) (s : Core) :
    (s.clearAsyncRespCallback i).syncView = s.syncView := by
  rcases clearAsync_cases i s with hEq | ⟨e, -, -, hEq⟩
  · rw [hEq]
  · rw [hEq]
    rfl

theorem step_elsewhere {a : Action} (hElsewhere : Action.elsewhere a = true)
    (hStep : step cfg s a = some s') : s'.syncView = s.syncView := by
  unfold step at hStep
  split at hStep
  · cases hStep
  · cases a with
    | rxClearAsync =>
      simp only [rxClearAsync] at hStep
      split at hStep
      · cases hStep
        exact clearAsync_syncView _ s
      · cases hStep
    | timerClear k =>
      simp only [timerClear, Option.ite_none_right_eq_some] at hStep
      obtain ⟨-, hEq⟩ := hStep
      cases hEq
      split
      · rfl
      · exact clearAsync_syncView _ s
    | txTakeSem | recvTx | composeReq | startTimer | setAsyncRespCallback | serialSend | txCleanup
    | notifyFail | failCleanup | scanAsync | recvResp | isAsyncAvailable | callAsync | queueRx
    | expire | timerRead | timerCall | drainRx | drainTx | cancelThreads =>
      simp only [txTakeSem, recvTx, composeReq, startTimer, setAsyncRespCallback, serialSend,
        txCleanup, notifyFail, failCleanup, scanAsync, recvResp, isAsyncAvailable, callAsync,
        queueRx, expire, timerRead, timerCall, drainRx, drainTx, cancelThreads] at hStep
      (repeat' split at hStep) <;> cases hStep <;> rfl
    | _ => cases hElsewhere

/-- An entry in use belongs to a caller that still waits, with a semaphore that exists. -/
structure Waited (cfg : Config) (s : Core) : Prop where
  vacant : ∀ (i : Nat) (e : Slot (Option Nat)), s.syncRspTable[i]? = some e → e.uid = 0 →
    e.item = none
  holds : ∀ (i k : Nat), s.syncRspTable[i]? = some (syncEntry s.uidOf k) →
    (s.caller k).holds i = true
  live : ∀ (i k : Nat), s.syncRspTable[i]? = some (syncEntry s.uidOf k) →
    ∃ given, s.sem k = .live given
  range : ∀ (i k : Nat), s.syncRspTable[i]? = some (syncEntry s.uidOf k) →
    (cfg.app k).expRespMsgId < rpcIdRespMax

namespace Waited

/-- An entry that points to a semaphore is in use. -/
theorem owned (h : Waited cfg s) (hSound : Sound cfg s) {i k : Nat} {e : Slot (Option Nat)}
    (hEntry : s.syncRspTable[i]? = some e) (hItem : e.item = some k) :
    k < s.next ∧ (cfg.app k).async = false ∧ e = syncEntry s.uidOf k := by
  have hNe : e.uid ≠ 0 := by
    intro hFree
    rw [h.vacant i e hEntry hFree] at hItem
    cases hItem
  obtain ⟨j, hLt, hSync, rfl⟩ := hSound.tables.syncUsed i e hEntry hNe
  cases hItem
  exact ⟨hLt, hSync, rfl⟩

theorem congr (h : Waited cfg s) (hView : s'.syncView = s.syncView) : Waited cfg s' := by
  obtain ⟨hTable, hRest⟩ := Prod.mk.inj hView
  obtain ⟨hUid, hRest⟩ := Prod.mk.inj hRest
  obtain ⟨hCaller, hSem⟩ := Prod.mk.inj hRest
  refine ⟨?_, ?_, ?_, ?_⟩
  · rw [hTable]
    exact h.vacant
  · rw [hTable, hUid, hCaller]
    exact h.holds
  · rw [hTable, hUid, hSem]
    exact h.live
  · rw [hTable, hUid]
    exact h.range

theorem setCaller (h : Waited cfg s) {k : Nat} {pc : CallerPc}
    (hKeep : ∀ i : Nat, s.syncRspTable[i]? = some (syncEntry s.uidOf k) → pc.holds i = true) :
    Waited cfg (s.setCaller k pc) :=
  { h with
    holds := fun i j hEntry => by
      unfold Core.setCaller
      by_cases hEq : j = k
      · subst hEq
        simp only [Function.update_self]
        exact hKeep i hEntry
      · simp only [Function.update_of_ne hEq]
        exact h.holds i j hEntry }

/-- From one place behind the registration to another. -/
theorem move (h : Waited cfg s) {k : Nat} {pc : CallerPc}
    (hKeep : ∀ i, (s.caller k).holds i = true → pc.holds i = true) :
    Waited cfg (s.setCaller k pc) :=
  h.setCaller fun i hEntry => hKeep i (h.holds i k hEntry)

theorem setSem (h : Waited cfg s) {k : Nat} {v : Sem}
    (hLive : ∀ i : Nat, s.syncRspTable[i]? = some (syncEntry s.uidOf k) →
      ∃ given, v = .live given) :
    Waited cfg { s with sem := Function.update s.sem k v } :=
  { h with
    live := fun i j hEntry => by
      by_cases hEq : j = k
      · subst hEq
        simp only [Function.update_self]
        exact hLive i hEntry
      · simp only [Function.update_of_ne hEq]
        exact h.live i j hEntry }

/-- A caller without an entry. -/
theorem no_entry (h : Waited cfg s) {k : Nat} (hNone : ∀ i, (s.caller k).holds i = false)
    (i : Nat) : s.syncRspTable[i]? ≠ some (syncEntry s.uidOf k) := by
  intro hEntry
  have hHolds := h.holds i k hEntry
  rw [hNone i] at hHolds
  cases hHolds

theorem async_no_entry (h : Waited cfg s) (hSound : Sound cfg s) {k : Nat}
    (hAsync : (cfg.app k).async = true) (i : Nat) :
    s.syncRspTable[i]? ≠ some (syncEntry s.uidOf k) := by
  intro hEntry
  rw [(h.owned hSound hEntry rfl).2.1] at hAsync
  cases hAsync

/-- A semaphore that is given is there. -/
theorem postSync (h : Waited cfg s) (resp : Resp) : Waited cfg (s.postSyncRespSem resp) := by
  unfold postSyncRespSem
  split
  · exact h
  · split
    · split
      · exact { h with }
      · rename_i k hItem
        split
        · rename_i given hSem
          have hGiven : Waited cfg { s with sem := Function.update s.sem k (.live true) } :=
            h.setSem fun _ _ => ⟨true, rfl⟩
          exact { hGiven with }
        · exact { h with }
    · exact h

end Waited

theorem sendReq_waited (hSound : Sound cfg s) (h : Waited cfg s)
    (hStep : sendReq cfg s = some s') : Waited cfg s' := by
  cases hStep
  have hOld : ∀ (i k : Nat),
      s.syncRspTable[i]? = some (syncEntry (Function.update s.uidOf s.next s.nextUid) k) →
      k ≠ s.next ∧ s.syncRspTable[i]? = some (syncEntry s.uidOf k) := by
    intro i k hEntry
    obtain ⟨hLt, -, hEq⟩ := h.owned hSound hEntry rfl
    exact ⟨Nat.ne_of_lt hLt, by rw [hEntry, hEq]⟩
  refine ⟨h.vacant, ?_, ?_, ?_⟩
  · intro i k hEntry
    obtain ⟨hNe, hEntry⟩ := hOld i k hEntry
    simp only [Function.update_of_ne hNe]
    exact h.holds i k hEntry
  · exact fun i k hEntry => h.live i k (hOld i k hEntry).2
  · exact fun i k hEntry => h.range i k (hOld i k hEntry).2

theorem setSyncRespSem_waited {createOk : Bool} {k : Nat} (hSound : Sound cfg s)
    (h : Waited cfg s) (hStep : setSyncRespSem cfg createOk k s = some s') : Waited cfg s' := by
  unfold setSyncRespSem at hStep
  split at hStep
  · rename_i hPc
    have hNone := h.no_entry (k := k) fun i => by rw [hPc]; rfl
    have hFail : Waited cfg (s.setCaller k .failing) :=
      h.setCaller fun i hEntry => absurd hEntry (hNone i)
    split at hStep
    · cases hStep
      exact { hFail with }
    · rename_i hOk
      split at hStep
      · have hSem := hFail.setSem (k := k) (v := .live false) fun _ _ => ⟨false, rfl⟩
        cases hStep
        exact { hSem with }
      · rename_i i hFree
        have hCases : ∀ (j l : Nat),
            (s.syncRspTable.set i ⟨s.uidOf k, some k⟩)[j]? = some (syncEntry s.uidOf l) →
            l = k ∨ (l ≠ k ∧ s.syncRspTable[j]? = some (syncEntry s.uidOf l)) := by
          intro j l hEntry
          rcases getElem?_set_cases hEntry with ⟨-, hEq⟩ | ⟨-, hOld⟩
          · exact Or.inl (Option.some.inj (congrArg Slot.item hEq))
          · refine Or.inr ⟨?_, hOld⟩
            rintro rfl
            exact hNone j hOld
        cases hStep
        refine ⟨?_, ?_, ?_, ?_⟩
        · intro j e he hUid
          rcases getElem?_set_cases he with ⟨-, rfl⟩ | ⟨-, he⟩
          · exact absurd hUid (hSound.tables.uid k (hSound.queued.lt_next (by simp [hPc])))
          · exact h.vacant j e he hUid
        · intro j l hEntry
          simp only [Core.setCaller]
          rcases hCases j l hEntry with rfl | ⟨hNe, hEntry⟩
          · rw [Function.update_self]
            rfl
          · rw [Function.update_of_ne hNe]
            exact h.holds j l hEntry
        · intro j l hEntry
          rcases hCases j l hEntry with rfl | ⟨hNe, hEntry⟩
          · exact ⟨false, Function.update_self ..⟩
          · simp only [Function.update_of_ne hNe]
            exact h.live j l hEntry
        · intro j l hEntry
          rcases hCases j l hEntry with rfl | ⟨hNe, hEntry⟩
          · omega
          · exact h.range j l hEntry
  · cases hStep

theorem queueTx_waited {ok : Bool} {k : Nat} (hSound : Sound cfg s) (h : Waited cfg s)
    (hCareful : Careful cfg s (.queueTx k ok)) (hStep : queueTx ok k s = some s') :
    Waited cfg s' := by
  unfold queueTx at hStep
  split at hStep
  · rename_i hPc
    split at hStep
    · split at hStep
      · have hMove : Waited cfg (s.setCaller k .indicating) := h.move fun _ _ => rfl
        cases hStep
        exact { hMove with }
      · cases hStep
    · rename_i hFail
      have hNone := h.async_no_entry hSound (hCareful.resolve_left hFail)
      cases hStep
      exact h.setCaller fun i hEntry => absurd hEntry (hNone i)
  · cases hStep

theorem failReq_waited {k : Nat} (h : Waited cfg s) (hStep : failReq k s = some s') :
    Waited cfg s' := by
  obtain ⟨hPc, rfl⟩ := failReq_some hStep
  have hNone := h.no_entry (k := k) fun i => by rw [hPc]; rfl
  have hFailed : Waited cfg (s.setCaller k .failed) :=
    h.setCaller fun i hEntry => absurd hEntry (hNone i)
  have hDeleted := hFailed.setSem (k := k) (v := .deleted)
    fun i hEntry => absurd hEntry (hNone i)
  by_cases hAbsent : s.sem k = .absent
  · simp only [if_pos hAbsent]
    exact { hFailed with }
  · simp only [if_neg hAbsent]
    exact { hDeleted with }

theorem rpcTxInd_waited {k : Nat} (h : Waited cfg s) (hStep : rpcTxInd cfg k s = some s') :
    Waited cfg s' := by
  unfold rpcTxInd at hStep
  split at hStep
  · have hMove : Waited cfg (s.setCaller k .returned) := h.move fun _ _ => rfl
    cases hStep
    exact { hMove with }
  · cases hStep

theorem readRspCb_waited {k : Nat} (hSound : Sound cfg s) (h : Waited cfg s)
    (hStep : readRspCb cfg k s = some s') : Waited cfg s' := by
  unfold readRspCb at hStep
  split at hStep
  · cases hStep
    cases hAsync : (cfg.app k).async with
    | true =>
      have hDone : Waited cfg (s.setCaller k (.finished none)) :=
        h.setCaller fun i hEntry => absurd hEntry (h.async_no_entry hSound hAsync i)
      exact { hDone with }
    | false =>
      have hMove : Waited cfg (s.setCaller k .lookup) := h.move fun _ _ => rfl
      exact { hMove with }
  · cases hStep

/-- The entry that the caller finds is its own. -/
theorem lookupSem_waited {k : Nat} (hSound : Sound cfg s) (h : Waited cfg s)
    (hStep : lookupSem cfg k s = some s') : Waited cfg s' := by
  unfold lookupSem at hStep
  split at hStep
  · rename_i hPc
    have hNe : s.uidOf k ≠ 0 := hSound.tables.uid k (hSound.queued.lt_next (by simp [hPc]))
    split at hStep
    · rename_i hRange
      have hGo : Waited cfg (s.setCaller k (.freeing none)) := by
        refine h.setCaller fun i hEntry => ?_
        have hLt := h.range i k hEntry
        omega
      cases hStep
      exact { hGo with }
    · split at hStep
      · rename_i hNone
        have hGo : Waited cfg (s.setCaller k (.freeing none)) :=
          h.setCaller fun i hEntry => absurd (has_of_getElem hEntry) (find_none hNone)
        cases hStep
        exact { hGo with }
      · rename_i i hFind
        have hGo : ∀ own, Waited cfg (s.setCaller k (.waiting i own)) := by
          refine fun own => h.setCaller fun j hEntry => ?_
          have hFound := hSound.tables.syncDistinct.find_eq hEntry hNe
          rw [show (syncEntry s.uidOf k).uid = s.uidOf k from rfl, hFind] at hFound
          cases hFound
          simp [CallerPc.holds]
        have hWaiting := hGo ((s.syncRspTable[i]?).bind (·.item))
        cases hStep
        exact { hWaiting with }
  · cases hStep

theorem takeSem_waited {k : Nat} (h : Waited cfg s) (hStep : takeSem k s = some s') :
    Waited cfg s' := by
  unfold takeSem at hStep
  split at hStep
  · rename_i i j hPc
    split at hStep
    · have hMove : Waited cfg (s.setCaller k (.taken i true)) :=
        h.move fun l hl => by rwa [hPc] at hl
      have hTaken := hMove.setSem (k := j) (v := .live false) fun _ _ => ⟨false, rfl⟩
      cases hStep
      exact { hTaken with }
    · cases hStep
  · cases hStep

theorem semTimeout_waited {k : Nat} (h : Waited cfg s) (hStep : semTimeout k s = some s') :
    Waited cfg s' := by
  unfold semTimeout at hStep
  split at hStep
  · rename_i i own hPc
    split at hStep
    · cases hStep
    · cases hStep
      exact h.move fun l hl => by rwa [hPc] at hl
  · cases hStep

/-- The entry that is cleared is that of the caller, or that of nobody who waits. -/
theorem clearSync_waited {k : Nat} (hSound : Sound cfg s) (h : Waited cfg s)
    (hStep : clearSync k s = some s') : Waited cfg s' := by
  unfold clearSync at hStep
  split at hStep
  · rename_i i ok hPc
    have hCases : ∀ (j l : Nat), (s.syncRspTable.set i ⟨0, none⟩)[j]? = some (syncEntry s.uidOf l) →
        j ≠ i ∧ s.syncRspTable[j]? = some (syncEntry s.uidOf l) := by
      intro j l hEntry
      rcases getElem?_set_cases hEntry with ⟨-, hEq⟩ | hOld
      · cases congrArg Slot.item hEq
      · exact hOld
    cases hStep
    refine ⟨?_, ?_, ?_, ?_⟩
    · intro j e he hUid
      rcases getElem?_set_cases he with ⟨-, rfl⟩ | ⟨-, he⟩
      · rfl
      · exact h.vacant j e he hUid
    · intro j l hEntry
      obtain ⟨hNe, hEntry⟩ := hCases j l hEntry
      have hHolds := h.holds j l hEntry
      have hOther : l ≠ k := by
        rintro rfl
        rw [hPc] at hHolds
        simp only [CallerPc.holds, beq_iff_eq] at hHolds
        exact hNe hHolds.symm
      simp only [Core.setCaller, Function.update_of_ne hOther]
      exact hHolds
    · intro j l hEntry
      obtain ⟨hNe, hEntry⟩ := hCases j l hEntry
      cases hItem : (s.syncRspTable[i]?).bind (·.item) with
      | none => exact h.live j l hEntry
      | some m =>
        obtain ⟨e, he, hOwner⟩ := Option.bind_eq_some_iff.mp hItem
        obtain ⟨hLt, -, rfl⟩ := h.owned hSound he hOwner
        have hOther : l ≠ m := by
          rintro rfl
          exact hNe (hSound.tables.sync_unique (hSound.tables.uid l hLt) hEntry he)
        simp only [deleteSem, Function.update_of_ne hOther]
        exact h.live j l hEntry
    · exact fun j l hEntry => h.range j l (hCases j l hEntry).2
  · cases hStep

theorem recvRx_waited {k : Nat} (h : Waited cfg s) (hStep : recvRx k s = some s') :
    Waited cfg s' := by
  unfold recvRx at hStep
  split at hStep
  · rename_i hPc
    have hGo : ∀ resp, Waited cfg (s.setCaller k (.freeing resp)) := fun resp =>
      h.move fun i hHolds => by rw [hPc] at hHolds; cases hHolds
    split at hStep
    · split at hStep
      · cases hStep
      · rename_i resp rest hQueue
        have hReceived := hGo (some resp)
        cases hStep
        exact { hReceived with }
    · cases hStep
      exact hGo none
  · cases hStep

theorem freeReq_waited {k : Nat} (h : Waited cfg s) (hStep : freeReq k s = some s') :
    Waited cfg s' := by
  unfold freeReq at hStep
  split at hStep
  · rename_i resp hPc
    have hDone : Waited cfg (s.setCaller k (.finished resp)) :=
      h.move fun i hHolds => by rw [hPc] at hHolds; cases hHolds
    cases hStep
    exact { hDone with }
  · cases hStep

theorem cleanupTables_waited (hStep : cleanupTables s = some s') :
    Waited cfg s' := by
  unfold cleanupTables at hStep
  split at hStep
  · have hNone : ∀ (i k : Nat), (s.syncRspTable.map fun _ => (⟨0, none⟩ : Slot (Option Nat)))[i]? ≠
        some (syncEntry s.uidOf k) := by
      intro i k hEntry
      obtain ⟨-, -, hEq⟩ := List.mem_map.mp (List.mem_of_getElem? hEntry)
      cases congrArg Slot.item hEq
    cases hStep
    refine ⟨?_, ?_, ?_, ?_⟩
    · intro i e he _
      obtain ⟨-, -, rfl⟩ := List.mem_map.mp (List.mem_of_getElem? he)
      rfl
    · exact fun i k hEntry => absurd hEntry (hNone i k)
    · exact fun i k hEntry => absurd hEntry (hNone i k)
    · exact fun i k hEntry => absurd hEntry (hNone i k)
  · cases hStep

theorem txPostSync_waited (h : Waited cfg s) (hStep : txPostSync s = some s') :
    Waited cfg s' := by
  unfold txPostSync at hStep
  split at hStep
  · rename_i k resp hPc
    have hPosted := h.postSync resp
    cases hStep
    exact { hPosted with }
  · cases hStep

theorem rxPostSync_waited (h : Waited cfg s) (hStep : rxPostSync s = some s') :
    Waited cfg s' := by
  unfold rxPostSync at hStep
  split at hStep
  · rename_i resp hPc
    have hPosted := h.postSync resp
    cases hStep
    exact { hPosted with }
  · cases hStep

theorem init_waited (cfg : Config) : Waited cfg (init cfg) := by
  have hFree : ∀ e ∈ (init cfg).syncRspTable, e = ⟨0, none⟩ := fun e he =>
    List.eq_of_mem_replicate he
  have hNone : ∀ (i k : Nat),
      (init cfg).syncRspTable[i]? ≠ some (syncEntry (init cfg).uidOf k) := by
    intro i k hEntry
    cases hFree _ (List.mem_of_getElem? hEntry)
  refine ⟨?_, ?_, ?_, ?_⟩
  · intro i e he _
    rw [hFree e (List.mem_of_getElem? he)]
  · exact fun i k hEntry => absurd hEntry (hNone i k)
  · exact fun i k hEntry => absurd hEntry (hNone i k)
  · exact fun i k hEntry => absurd hEntry (hNone i k)

theorem step_waited {a : Action} (hSound : Sound cfg s) (h : Waited cfg s)
    (hCareful : Careful cfg s a) (hStep : step cfg s a = some s') : Waited cfg s' := by
  by_cases hElsewhere : Action.elsewhere a = true
  · exact h.congr (step_elsewhere hElsewhere hStep)
  · unfold step at hStep
    split at hStep
    · cases hStep
    · cases a with
      | sendReq => exact sendReq_waited hSound h hStep
      | setSyncRespSem k createOk => exact setSyncRespSem_waited hSound h hStep
      | queueTx k ok => exact queueTx_waited hSound h hCareful hStep
      | failReq k => exact failReq_waited h hStep
      | rpcTxInd k => exact rpcTxInd_waited h hStep
      | readRspCb k => exact readRspCb_waited hSound h hStep
      | lookupSem k => exact lookupSem_waited hSound h hStep
      | takeSem k => exact takeSem_waited h hStep
      | semTimeout k => exact semTimeout_waited h hStep
      | clearSync k => exact clearSync_waited hSound h hStep
      | recvRx k => exact recvRx_waited h hStep
      | freeReq k => exact freeReq_waited h hStep
      | txPostSync => exact txPostSync_waited h hStep
      | rxPostSync => exact rxPostSync_waited h hStep
      | cleanupTables => exact cleanupTables_waited hStep
      | _ => exact absurd rfl hElsewhere

/-! ## Every careful run -/

/-- The entry was registered with the uid of the response, for a request whose callback was not
called yet. -/
def AsyncMatch (cfg : Config) (s : Core) (resp : Resp) (i : Nat) : Prop :=
  resp.uid ≠ 0 ∧ ∃ k < s.next, (cfg.app k).async = true ∧ s.uidOf k = resp.uid ∧
    s.asyncRspTable[i]? = some (asyncEntry s.uidOf k) ∧ s.cbCalls k = 0

/-- The entry was registered with the uid of the response, for a request whose caller still
waits. -/
def SyncMatch (cfg : Config) (s : Core) (resp : Resp) (i : Nat) : Prop :=
  resp.uid ≠ 0 ∧ ∃ k < s.next, (cfg.app k).async = false ∧ s.uidOf k = resp.uid ∧
    s.syncRspTable[i]? = some (syncEntry s.uidOf k) ∧
    (s.caller k).holds i = true ∧ ∃ given, s.sem k = .live given

/-- No uid other than 0 stands in two entries of the tables. -/
def UidsDistinct (s : Core) : Prop :=
  Distinct s.syncRspTable ∧ Distinct s.asyncRspTable ∧ Apart s.syncRspTable s.asyncRspTable

/-- What the careful steps keep. -/
def Careful.Inv (cfg : Config) (s : Core) : Prop :=
  Sound cfg s ∧ Started cfg s ∧ Calls cfg s ∧ Waited cfg s

theorem careful_invariant (cfg : Config) {s : Core}
    (hRun : Reaches (step cfg) (Careful cfg) (init cfg) s) : Careful.Inv cfg s := by
  apply hRun.invariant ⟨init_sound cfg, init_started cfg, init_calls cfg, init_waited cfg⟩
  rintro t a t' ⟨hSound, hStarted, hCalls, hWaited⟩ hCareful hStep
  exact ⟨step_sound hSound hCareful.timely.freshUid hStep, step_started hSound hStarted hStep,
    step_calls hSound hStarted hCalls hCareful.timely hStep,
    step_waited hSound hWaited hCareful hStep⟩

theorem asyncMatch_of_calling (hSound : Sound cfg s) (hCalls : Calls cfg s) {resp : Resp} {i : Nat}
    (hPc : resp ∈ s.rx.called) (hFind : find s.asyncRspTable resp.uid = some i)
    (hUid : resp.uid ≠ 0 ∨ ¬ Has s.asyncRspTable 0) : AsyncMatch cfg s resp i := by
  have hNe := uid_ne_zero_of_find hFind hUid
  obtain ⟨k, hOwner, hEq⟩ := hSound.tables.owner_of_find hNe hFind
  obtain ⟨hLt, hAsync, hEntry⟩ := hSound.tables.owner_entry hOwner
  refine ⟨hNe, k, hLt, hAsync, hEq, hEntry, (hCalls.called i k hOwner).resolve_right ?_⟩
  cases hRx : s.rx with
  | calling r => simp [RxPc.spent]
  | idle | dispatching | clearing | queueing | posting | cancelled =>
    rw [hRx] at hPc
    cases hPc

theorem syncMatch_of_addressed (hSound : Sound cfg s) (hWaited : Waited cfg s) {resp : Resp}
    {i : Nat} (hRange : resp.InRange) (hFind : find s.syncRspTable resp.uid = some i)
    (hUid : Addressed s resp) : SyncMatch cfg s resp i := by
  have hNe := uid_ne_zero_of_find hFind (hUid hRange)
  obtain ⟨k, hLt, hSync, hEq, hEntry⟩ := hSound.tables.find_sync hNe hFind
  exact ⟨hNe, k, hLt, hSync, hEq, hEntry, hWaited.holds i k hEntry, hWaited.live i k hEntry⟩

end Core

/-! ## With one thread at a table -/

namespace Unlocked

open Rpc.Core

variable {cfg : Config} {u v : Unlocked} {s : Core}

/-- A step that is careful in the memory is so in the state. -/
theorem careful_state {act : Act} {b : Action} (hRel : Rel cfg u s) (hAlone : u.Alone act)
    (hb : u.commits cfg act = some b) (h : Careful cfg u.core b) : Careful cfg s b := by
  have hAsync := commits_memory hRel hAlone hb
  have hSync := commits_sync_memory hRel hAlone hb
  have hRel' := hRel
  obtain ⟨async, sync, bad, hEq, -, -⟩ := hRel'
  have hTx : u.core.tx = s.tx := by rw [hEq]; rfl
  have hRx : u.core.rx = s.rx := by rw [hEq]; rfl
  cases b with
  | sendReq => exact freshUid_state hRel h.timely.freshUid
  | queueTx k ok => exact h
  | callAsync =>
    have hTable := ((hAsync rfl).resolve_right fun ⟨⟨t, hClear⟩, _⟩ => by
      cases t <;> cases hClear).1
    intro resp hPc
    rw [← hRx] at hPc
    rw [← hTable]
    exact h resp hPc
  | rxPostSync =>
    intro resp hPc hRange
    rw [← hRx] at hPc
    rw [← hSync rfl]
    exact h resp hPc hRange
  | txPostSync =>
    intro resp hPc hRange
    rw [← hTx] at hPc
    rw [← hSync rfl]
    exact h resp hPc hRange
  | serialSend ok =>
    refine Or.imp_right (fun hAll k hHeld => ?_) h
    rw [← hTx] at hHeld
    exact hAll k hHeld
  | expire k =>
    have hNot : u.core.tx ≠ .registering k := h
    rw [hTx] at hNot
    exact hNot
  | _ => trivial

/-- A run of the memory is a run of `Core`. -/
theorem careful_of_reaches (cfg : Config)
    (hRun : Reaches (step cfg) (Orderly cfg (Careful cfg)) (init cfg) u) :
    ∃ s, (Rel cfg u s ∧ Before cfg u s) ∧
      Reaches (Core.step cfg) (Careful cfg) (Core.init cfg) s := by
  refine hRun.simulation (R := fun u s => Rel cfg u s ∧ Before cfg u s)
    ⟨init_rel cfg, init_before cfg⟩ ?_
  rintro v act w s ⟨hRel, hBefore⟩ hReached ⟨hAlone, hGuard⟩ hStep
  obtain ⟨hSound, hStarted, -, -⟩ := careful_invariant cfg hReached
  obtain ⟨s', hRel', hDone, -, hBefore'⟩ := simulates hSound hStarted hRel hAlone hStep
  refine ⟨s', ⟨hRel', hBefore' hBefore fun b hb => (hGuard b hb).timely.freshUid⟩, ?_⟩
  cases hCommits : v.commits cfg act with
  | none =>
    rw [hCommits] at hDone
    exact .inl hDone
  | some b =>
    rw [hCommits] at hDone
    exact .inr ⟨b, careful_state hRel hAlone hCommits (hGuard b hCommits), hDone⟩

/-- What an access does with a response, it does for the request that the response belongs to. -/
def Matched (cfg : Config) (u : Unlocked) : Act → Prop
  | .act _ => True
  | .go t =>
    match u.async.find? (·.1 = t), u.sync.find? (·.1 = t) with
    | some (_, .callCb i resp), _ => AsyncMatch cfg u.core resp i
    | none, some (_, .giveSem i resp) => SyncMatch cfg u.core resp i
    | _, _ => True

theorem asyncMatch_memory {resp : Resp} {i : Nat} (hRel : Rel cfg u s)
    (hTable : u.core.asyncRspTable = s.asyncRspTable) (h : AsyncMatch cfg s resp i) :
    AsyncMatch cfg u.core resp i := by
  obtain ⟨async, sync, bad, hEq, -, -⟩ := hRel
  unfold AsyncMatch
  rw [hTable, hEq]
  exact h

theorem syncMatch_memory {resp : Resp} {i : Nat} (hRel : Rel cfg u s)
    (hTable : u.core.syncRspTable = s.syncRspTable) (h : SyncMatch cfg s resp i) :
    SyncMatch cfg u.core resp i := by
  obtain ⟨async, sync, bad, hEq, -, -⟩ := hRel
  unfold SyncMatch
  rw [hTable, hEq]
  exact h

/-- The entry whose callback is called. -/
theorem matched_callCb {t : Thread} {i : Nat} {resp : Resp} (hInv : Careful.Inv cfg s)
    (hRel : Rel cfg u s) (hMem : (t, .callCb i resp) ∈ u.async)
    (hCareful : Careful cfg u.core .callAsync) (hPc : u.core.rx = .calling resp) :
    AsyncMatch cfg u.core resp i := by
  obtain ⟨hSound, -, hCalls, -⟩ := hInv
  have hRel' := hRel
  obtain ⟨core, works, sync⟩ := u
  obtain ⟨async, sync', bad, hEq, hAsync, -⟩ := hRel'
  dsimp only at hEq
  subst hEq
  match works, hAsync with
  | [w], hOpen =>
    obtain rfl := List.mem_singleton.mp hMem
    obtain ⟨hTable, hFind⟩ := hOpen
    subst hTable
    have hPc' : s.rx = .calling resp := hPc
    refine asyncMatch_memory hRel rfl ?_
    exact asyncMatch_of_calling hSound hCalls (by rw [hPc']; rfl) hFind
      (hCareful resp (by rw [hPc]; rfl))

/-- The entry whose semaphore is given. -/
theorem matched_giveSem {t : Thread} {i : Nat} {resp : Resp} (hInv : Careful.Inv cfg s)
    (hRel : Rel cfg u s) (hMem : (t, .giveSem i resp) ∈ u.sync)
    (hAddressed : Addressed u.core resp) : SyncMatch cfg u.core resp i := by
  obtain ⟨hSound, -, -, hWaited⟩ := hInv
  have hRel' := hRel
  obtain ⟨core, async, works⟩ := u
  obtain ⟨async', sync, bad, hEq, -, hSync⟩ := hRel'
  dsimp only at hEq
  subst hEq
  match works, hSync with
  | [w], hOpen =>
    obtain rfl := List.mem_singleton.mp hMem
    obtain ⟨hTable, hFind, hRange⟩ := hOpen
    subst hTable
    exact syncMatch_memory hRel rfl (syncMatch_of_addressed hSound hWaited hRange hFind hAddressed)

/-- In a careful run with one thread at a time at a table, every response that is matched with an
entry belongs to the request that registered it, which is still waiting, and the uids in the tables
are distinct. -/
theorem matched (cfg : Config) {u : Unlocked}
    (hRun : Reaches (step cfg) (Orderly cfg (Careful cfg)) (init cfg) u) :
    UidsDistinct u.core ∧
      ∀ a v, Orderly cfg (Careful cfg) u a → u.step cfg a = some v → Matched cfg u a := by
  obtain ⟨s, ⟨hRel, hBefore⟩, hReached⟩ := careful_of_reaches cfg hRun
  have hInv := careful_invariant cfg hReached
  refine ⟨hBefore.distinct hRel, fun a v hOrderly hStep => ?_⟩
  obtain ⟨-, hCareful⟩ := hOrderly
  cases a with
  | act a => trivial
  | go t =>
    simp only [step] at hStep
    split at hStep
    · cases hStep
    · simp only [commits] at hCareful
      unfold Matched
      dsimp only
      split
      · rename_i t' i resp hFind
        rw [hFind] at hStep hCareful
        obtain ⟨r, hExec, -⟩ := Option.map_eq_some_iff.mp hStep
        simp only [asyncExec, Option.ite_none_right_eq_some] at hExec
        exact matched_callCb hInv hRel (List.mem_of_find?_eq_some hFind)
          (hCareful .callAsync rfl) hExec.1
      · rename_i t' i resp hNone hFind
        rw [hNone, hFind] at hStep hCareful
        have hThread : t' = t := by simpa using List.find?_some hFind
        obtain ⟨r, hExec, -⟩ := Option.map_eq_some_iff.mp hStep
        obtain ⟨m, hLeave, -⟩ := Option.map_eq_some_iff.mp hExec
        refine matched_giveSem hInv hRel (List.mem_of_find?_eq_some hFind) ?_
        rcases leavePost_cases hLeave with ⟨rfl, hRx, -⟩ | ⟨k, rfl, hTx, -⟩
        · exact hCareful .rxPostSync rfl resp (by rw [hRx]; rfl)
        · exact hCareful .txPostSync rfl resp (by rw [hTx]; rfl)
      · trivial

def oneOfEach : Config := { maxSync := 5, maxAsync := 5, app := fun k => ⟨257, k = 1⟩ }

/-- A synchronous and an asynchronous request are registered, the second one while the first is
written into its entry, and the response to the second one is received. -/
def asyncResponse : List Act :=
  ([.act .sendReq, .act (.setSyncRespSem 0 true), .go (.caller 0), .act .sendReq,
    .go (.caller 0)] : List Act) ++
  ([.queueTx 0 true, .rpcTxInd 0, .txTakeSem, .recvTx, .composeReq true, .serialSend true,
    .txCleanup, .queueTx 1 true, .rpcTxInd 1, .txTakeSem, .recvTx, .composeReq true,
    .startTimer true, .setAsyncRespCallback] : List Action).map .act ++
  List.replicate 4 (Act.go .tx) ++
  ([.serialSend true, .txCleanup, .recvResp ⟨513, 2⟩, .isAsyncAvailable,
    .callAsync] : List Action).map .act

/-- Its callback can be called. -/
theorem matched_asyncResponse :
    ∃ u, runGuarded (step oneOfEach) (Orderly oneOfEach (Careful oneOfEach)) (init oneOfEach)
      asyncResponse = some u ∧
      u.async = [(.rx, .callCb 0 ⟨513, 2⟩)] ∧ (u.step oneOfEach (.go .rx)).isSome ∧
      Matched oneOfEach u (.go .rx) ∧ UidsDistinct u.core := by
  have hRun : (runGuarded (step oneOfEach) (Orderly oneOfEach (Careful oneOfEach))
      (init oneOfEach) asyncResponse).map (fun u => (u.async, (u.step oneOfEach (.go .rx)).isSome,
        decide (Orderly oneOfEach (Careful oneOfEach) u (.go .rx)))) =
      some ([(.rx, .callCb 0 ⟨513, 2⟩)], true, true) := by decide +kernel
  obtain ⟨u, hu, hOut⟩ := Option.map_eq_some_iff.mp hRun
  obtain ⟨hAsync, hOut⟩ := Prod.mk.inj hOut
  obtain ⟨hStep, hOrderly⟩ := Prod.mk.inj hOut
  obtain ⟨v, hv⟩ := Option.isSome_iff_exists.mp hStep
  obtain ⟨hDistinct, hMatched⟩ := matched oneOfEach (.of_run hu)
  exact ⟨u, hu, hAsync, hStep, hMatched _ v (of_decide_eq_true hOrderly) hv, hDistinct⟩

/-- A response with the uid 0, before anything was sent. -/
def zeroUid : List Act := [.act (.recvResp ⟨513, 0⟩), .act .isAsyncAvailable, .act .callAsync]

theorem not_matched :
    ¬ ∀ u, Reaches (step oneOfEach) anyStep (init oneOfEach) u →
      UidsDistinct u.core ∧ ∀ a v, u.step oneOfEach a = some v → Matched oneOfEach u a := by
  intro h
  have hRun : (run (step oneOfEach) (init oneOfEach) zeroUid).map
      (fun u => (u.async, (u.step oneOfEach (.go .rx)).isSome)) =
      some ([(.rx, .callCb 0 ⟨513, 0⟩)], true) := by decide +kernel
  obtain ⟨u, hu, hOut⟩ := Option.map_eq_some_iff.mp hRun
  obtain ⟨hAsync, hStep⟩ := Prod.mk.inj hOut
  obtain ⟨v, hv⟩ := Option.isSome_iff_exists.mp hStep
  have hMatch : AsyncMatch oneOfEach u.core ⟨513, 0⟩ 0 := by
    simpa [Matched, hAsync] using (h u (.of_plain_run hu)).2 (.go .rx) v hv
  exact hMatch.1 rfl

/-- Two callers find the same free entry of `sync_rsp_table`: the uid of the one stands with the
semaphore of the other. -/
def sameEntry : List Act :=
  [.act .sendReq, .act .sendReq, .act .sendReq, .act (.setSyncRespSem 0 true),
    .act (.setSyncRespSem 2 true), .go (.caller 0), .go (.caller 2), .go (.caller 2),
    .go (.caller 0)]

example : (run (step oneOfEach) (init oneOfEach) sameEntry).map
    (fun u => u.core.syncRspTable.head?.map fun e => (e.uid, e.item)) =
    some (some (3, some 0)) := by
  decide +kernel

end Unlocked

end EspHosted.Rpc
