import EspHosted.Rpc.Core

/-!
# Requests and table entries

Every request goes through `rpc_tx_q` once, and it is registered in its table once. As long
as no uid is given to a request that another request is using, an entry in use belongs to
exactly one request, all whose pointers it holds, and no uid occurs twice in the two tables.

* `Queued`: where a request is on its way to the tx thread;
* `Tables`: the tables, and the requests that are still to be registered;
* `step_sound`: both are kept by every step that takes a fresh uid.
-/

namespace EspHosted.Rpc

open Slots Machine

/-! ## On the way to the tx thread -/

/-- The request is in one place at most, and has been handed over when it is there. -/
structure Queued (next : Nat) (caller : Nat → CallerPc) (rpcTxQ : List Nat)
    (held : Option Nat) : Prop where
  nodup : rpcTxQ.Nodup
  single : ∀ k, held = some k → k ∉ rpcTxQ
  queued : ∀ k, k ∈ rpcTxQ ∨ held = some k → (caller k).queued = true
  born : ∀ k, next ≤ k → caller k = .unborn

namespace Queued

variable {next : Nat} {caller : Nat → CallerPc} {rpcTxQ : List Nat} {held : Option Nat}

theorem lt_next (h : Queued next caller rpcTxQ held) {k : Nat} (hk : caller k ≠ .unborn) :
    k < next := by
  by_contra hLe
  exact hk (h.born k (by omega))

/-- A thread moves on, without leaving `rpc_send_req`'s first half or coming back to it. -/
theorem move (h : Queued next caller rpcTxQ held) {k : Nat} {pc : CallerPc}
    (hBorn : caller k ≠ .unborn) (hQueued : (caller k).queued = true → pc.queued = true) :
    Queued next (Function.update caller k pc) rpcTxQ held := by
  refine ⟨h.nodup, h.single, ?_, ?_⟩
  · intro j hj
    have hOld := h.queued j hj
    by_cases hEq : j = k
    · subst hEq
      rw [Function.update_self]
      exact hQueued hOld
    · rwa [Function.update_of_ne hEq]
  · intro j hj
    have hLt := h.lt_next hBorn
    rw [Function.update_of_ne (by omega)]
    exact h.born j hj

theorem issue (h : Queued next caller rpcTxQ held) (pc : CallerPc) :
    Queued (next + 1) (Function.update caller next pc) rpcTxQ held := by
  refine ⟨h.nodup, h.single, ?_, ?_⟩
  · intro j hj
    have hOld := h.queued j hj
    have hNe : j ≠ next := by
      rintro rfl
      rw [h.born j (Nat.le_refl _)] at hOld
      cases hOld
    rwa [Function.update_of_ne hNe]
  · intro j hj
    rw [Function.update_of_ne (by omega)]
    exact h.born j (by omega)

theorem enqueue (h : Queued next caller rpcTxQ held) {k : Nat} (hk : caller k = .queueing) :
    Queued next (Function.update caller k .indicating) (rpcTxQ ++ [k]) held := by
  have hFresh : ¬ (k ∈ rpcTxQ ∨ held = some k) := by
    intro hOld
    have hQueued := h.queued k hOld
    rw [hk] at hQueued
    cases hQueued
  have hMoved : Queued next (Function.update caller k .indicating) rpcTxQ held :=
    h.move (by rw [hk]; decide) fun _ => rfl
  refine ⟨?_, ?_, ?_, hMoved.born⟩
  · rw [List.nodup_append]
    exact ⟨h.nodup, by simp, fun a ha b hb =>
      fun hEq => hFresh (Or.inl (by rw [List.mem_singleton.mp hb] at hEq; rwa [← hEq]))⟩
  · intro j hj hMem
    rcases List.mem_append.mp hMem with hMem | hMem
    · exact h.single j hj hMem
    · rw [List.mem_singleton.mp hMem] at hj
      exact hFresh (Or.inr hj)
  · rintro j (hj | hj)
    · rcases List.mem_append.mp hj with hj | hj
      · exact hMoved.queued j (Or.inl hj)
      · rw [List.mem_singleton.mp hj, Function.update_self]
        rfl
    · exact hMoved.queued j (Or.inr hj)

theorem dequeue {k : Nat} (h : Queued next caller (k :: rpcTxQ) none) :
    Queued next caller rpcTxQ (some k) := by
  obtain ⟨hFirst, hNodup⟩ := List.nodup_cons.mp h.nodup
  refine ⟨hNodup, ?_, ?_, h.born⟩
  · rintro j ⟨⟩
    exact hFirst
  · rintro j (hj | hj)
    · exact h.queued j (Or.inl (List.mem_cons_of_mem k hj))
    · rw [← Option.some.inj hj]
      exact h.queued k (Or.inl List.mem_cons_self)

theorem release (h : Queued next caller rpcTxQ held) : Queued next caller rpcTxQ none :=
  ⟨h.nodup, fun k hk => (by cases hk), fun k hk => h.queued k (hk.imp_right fun h => by cases h),
    h.born⟩

theorem drain (h : Queued next caller rpcTxQ held) : Queued next caller [] held :=
  ⟨List.nodup_nil, fun _ _ => List.not_mem_nil, fun k hk =>
    h.queued k (Or.inr (hk.resolve_left List.not_mem_nil)), h.born⟩

end Queued

/-! ## Requests still to be registered -/

/-- The request in the hands of the tx thread, before its callback is registered. -/
def TxPc.early : TxPc → Option Nat
  | .composing k | .starting k | .registering k => some k
  | _ => none

/-- The request in the hands of the tx thread, at the steps for asynchronous requests only. -/
def TxPc.timed : TxPc → Option Nat
  | .starting k | .registering k => some k
  | _ => none

/-- The request will still look for a slot of its table. -/
def Pending (cfg : Config) (caller : Nat → CallerPc) (rpcTxQ : List Nat) (early : Option Nat)
    (k : Nat) : Prop :=
  if (cfg.app k).async then caller k = .queueing ∨ k ∈ rpcTxQ ∨ early = some k
  else caller k = .registering

instance (cfg : Config) (caller : Nat → CallerPc) (rpcTxQ : List Nat) (early : Option Nat)
    (k : Nat) : Decidable (Pending cfg caller rpcTxQ early k) := by
  unfold Pending
  infer_instance

section Pending

variable {cfg : Config} {caller : Nat → CallerPc} {rpcTxQ : List Nat} {early : Option Nat} {j : Nat}

theorem Pending.of_move {k : Nat} {pc : CallerPc} (hQ : pc ≠ .queueing) (hR : pc ≠ .registering)
    (h : Pending cfg (Function.update caller k pc) rpcTxQ early j) :
    Pending cfg caller rpcTxQ early j := by
  unfold Pending at h ⊢
  by_cases hEq : j = k
  · subst hEq
    rw [Function.update_self] at h
    split at h
    · rename_i hAsync
      rw [if_pos hAsync]
      exact Or.inr (h.resolve_left hQ)
    · exact absurd h hR
  · rwa [Function.update_of_ne hEq] at h

theorem Pending.of_release (h : Pending cfg caller rpcTxQ none j) :
    Pending cfg caller rpcTxQ early j := by
  unfold Pending at h ⊢
  split
  · rename_i hAsync
    rw [if_pos hAsync] at h
    rcases h with h | h | h
    · exact Or.inl h
    · exact Or.inr (Or.inl h)
    · cases h
  · rename_i hSync
    rwa [if_neg hSync] at h

theorem Pending.of_drain (h : Pending cfg caller [] early j) :
    Pending cfg caller rpcTxQ early j := by
  unfold Pending at h ⊢
  split
  · rename_i hAsync
    rw [if_pos hAsync] at h
    rcases h with h | h | h
    · exact Or.inl h
    · exact absurd h List.not_mem_nil
    · exact Or.inr (Or.inr h)
  · rename_i hSync
    rwa [if_neg hSync] at h

theorem Pending.of_dequeue {k : Nat} (h : Pending cfg caller rpcTxQ (some k) j) :
    Pending cfg caller (k :: rpcTxQ) none j := by
  unfold Pending at h ⊢
  split
  · rename_i hAsync
    rw [if_pos hAsync] at h
    rcases h with h | h | h
    · exact Or.inl h
    · exact Or.inr (Or.inl (List.mem_cons_of_mem k h))
    · cases h
      exact Or.inr (Or.inl List.mem_cons_self)
  · rename_i hSync
    rwa [if_neg hSync] at h

theorem Pending.of_enqueue {k : Nat} (hk : caller k = .queueing)
    (h : Pending cfg (Function.update caller k .indicating) (rpcTxQ ++ [k]) early j) :
    Pending cfg caller rpcTxQ early j := by
  unfold Pending at h ⊢
  by_cases hEq : j = k
  · subst hEq
    rw [Function.update_self] at h
    split
    · exact Or.inl hk
    · rename_i hSync
      rw [if_neg hSync] at h
      cases h
  · simpa [Function.update_of_ne hEq, hEq] using h

end Pending

/-! ## The tables -/

/-- What an entry of `sync_rsp_table`, and of `async_rsp_table`, in use holds. -/
def syncEntry (uidOf : Nat → Nat) (k : Nat) : Slot (Option Nat) := ⟨uidOf k, some k⟩

def asyncEntry (uidOf : Nat → Nat) (k : Nat) : Slot AsyncItem :=
  ⟨uidOf k, some k, some k, some k⟩

structure Tables (cfg : Config) (next : Nat) (uidOf : Nat → Nat)
    (sync : List (Slot (Option Nat))) (async : List (Slot AsyncItem)) (P : Nat → Prop) :
    Prop where
  syncUsed : ∀ (i : Nat) (e : Slot (Option Nat)), sync[i]? = some e → e.uid ≠ 0 →
    ∃ k < next, (cfg.app k).async = false ∧ e = syncEntry uidOf k
  asyncUsed : ∀ (i : Nat) (e : Slot AsyncItem), async[i]? = some e → e.uid ≠ 0 →
    ∃ k < next, (cfg.app k).async = true ∧ e = asyncEntry uidOf k
  syncDistinct : Distinct sync
  asyncDistinct : Distinct async
  apart : Apart sync async
  uid : ∀ k < next, uidOf k ≠ 0
  pending : ∀ k, P k → k < next ∧ ¬ Has sync (uidOf k) ∧ ¬ Has async (uidOf k)
  pendingInj : ∀ j k, P j → P k → uidOf j = uidOf k → j = k

namespace Tables

variable {cfg : Config} {next : Nat} {uidOf : Nat → Nat} {sync : List (Slot (Option Nat))}
  {async : List (Slot AsyncItem)} {P P' : Nat → Prop}

theorem mono (h : Tables cfg next uidOf sync async P) (hP : ∀ k, P' k → P k) :
    Tables cfg next uidOf sync async P' :=
  ⟨h.syncUsed, h.asyncUsed, h.syncDistinct, h.asyncDistinct, h.apart, h.uid,
    fun k hk => h.pending k (hP k hk),
    fun j k hj hk => h.pendingInj j k (hP j hj) (hP k hk)⟩

/-- An entry that is found belongs to a request. -/
theorem find_sync (h : Tables cfg next uidOf sync async P) {u i : Nat} (hNe : u ≠ 0)
    (hFind : find sync u = some i) :
    ∃ k < next, (cfg.app k).async = false ∧ uidOf k = u ∧ sync[i]? = some (syncEntry uidOf k) := by
  obtain ⟨e, he, rfl⟩ := find_some hFind
  obtain ⟨k, hk, hSync, rfl⟩ := h.syncUsed i e he hNe
  exact ⟨k, hk, hSync, rfl, he⟩

theorem find_async (h : Tables cfg next uidOf sync async P) {u i : Nat} (hNe : u ≠ 0)
    (hFind : find async u = some i) :
    ∃ k < next, (cfg.app k).async = true ∧ uidOf k = u ∧ async[i]? = some (asyncEntry uidOf k) := by
  obtain ⟨e, he, rfl⟩ := find_some hFind
  obtain ⟨k, hk, hAsync, rfl⟩ := h.asyncUsed i e he hNe
  exact ⟨k, hk, hAsync, rfl, he⟩

/-- A request has one entry at most. -/
theorem sync_unique (h : Tables cfg next uidOf sync async P) {i j k : Nat} (hNe : uidOf k ≠ 0)
    (hi : sync[i]? = some (syncEntry uidOf k)) (hj : sync[j]? = some (syncEntry uidOf k)) :
    i = j :=
  h.syncDistinct i j _ _ hi hj hNe rfl

/-- An entry of a request that is still to be registered does not exist. -/
theorem pending_async (h : Tables cfg next uidOf sync async P) {i k : Nat} (hk : P k) :
    async[i]? ≠ some (asyncEntry uidOf k) := fun hi =>
  (h.pending k hk).2.2 (has_of_getElem hi)

theorem fillSync (h : Tables cfg next uidOf sync async P) {k : Nat} (hk : P k)
    (hSync : (cfg.app k).async = false) (hP : ∀ j, P' j → P j ∧ j ≠ k) (i : Nat) :
    Tables cfg next uidOf (sync.set i (syncEntry uidOf k)) async P' := by
  obtain ⟨hLt, hNewSync, hNewAsync⟩ := h.pending k hk
  refine ⟨?_, h.asyncUsed, h.syncDistinct.fill i hNewSync _, h.asyncDistinct,
    h.apart.fill i hNewAsync _, h.uid, ?_,
    fun j l hj hl => h.pendingInj j l (hP j hj).1 (hP l hl).1⟩
  · intro j e he hUid
    rcases getElem?_set_cases he with ⟨-, rfl⟩ | ⟨-, he⟩
    · exact ⟨k, hLt, hSync, rfl⟩
    · exact h.syncUsed j e he hUid
  · intro j hj
    obtain ⟨hPj, hNeK⟩ := hP j hj
    obtain ⟨hLtJ, hNewS, hNewA⟩ := h.pending j hPj
    refine ⟨hLtJ, ?_, hNewA⟩
    intro hHas
    rcases has_set hHas with hEq | hHas
    · exact hNeK (h.pendingInj j k hPj hk hEq.symm)
    · exact hNewS hHas

theorem fillAsync (h : Tables cfg next uidOf sync async P) {k : Nat} (hk : P k)
    (hAsync : (cfg.app k).async = true) (hP : ∀ j, P' j → P j ∧ j ≠ k) (i : Nat) :
    Tables cfg next uidOf sync (async.set i (asyncEntry uidOf k)) P' := by
  obtain ⟨hLt, hNewSync, hNewAsync⟩ := h.pending k hk
  refine ⟨h.syncUsed, ?_, h.syncDistinct, h.asyncDistinct.fill i hNewAsync _,
    (h.apart.symm.fill i hNewSync _).symm, h.uid, ?_,
    fun j l hj hl => h.pendingInj j l (hP j hj).1 (hP l hl).1⟩
  · intro j e he hUid
    rcases getElem?_set_cases he with ⟨-, rfl⟩ | ⟨-, he⟩
    · exact ⟨k, hLt, hAsync, rfl⟩
    · exact h.asyncUsed j e he hUid
  · intro j hj
    obtain ⟨hPj, hNeK⟩ := hP j hj
    obtain ⟨hLtJ, hNewS, hNewA⟩ := h.pending j hPj
    refine ⟨hLtJ, hNewS, ?_⟩
    intro hHas
    rcases has_set hHas with hEq | hHas
    · exact hNeK (h.pendingInj j k hPj hk hEq.symm)
    · exact hNewA hHas

theorem not_has_erase {α : Type} {t : List (Slot α)} {i uid : Nat} {item : α} (hNe : uid ≠ 0)
    (h : ¬ Has t uid) : ¬ Has (t.set i ⟨0, item⟩) uid := by
  intro hHas
  rcases has_set hHas with hEq | hHas
  · exact hNe hEq.symm
  · exact h hHas

theorem eraseSync (h : Tables cfg next uidOf sync async P) (i : Nat) (item : Option Nat) :
    Tables cfg next uidOf (sync.set i ⟨0, item⟩) async P := by
  refine ⟨?_, h.asyncUsed, h.syncDistinct.erase i item, h.asyncDistinct, h.apart.erase i item,
    h.uid, ?_, h.pendingInj⟩
  · intro j e he hUid
    rcases getElem?_set_cases he with ⟨-, rfl⟩ | ⟨-, he⟩
    · exact absurd rfl hUid
    · exact h.syncUsed j e he hUid
  · intro k hk
    obtain ⟨hLt, hNewS, hNewA⟩ := h.pending k hk
    exact ⟨hLt, not_has_erase (h.uid k hLt) hNewS, hNewA⟩

theorem eraseAsync (h : Tables cfg next uidOf sync async P) (i : Nat) (item : AsyncItem) :
    Tables cfg next uidOf sync (async.set i ⟨0, item⟩) P := by
  refine ⟨h.syncUsed, ?_, h.syncDistinct, h.asyncDistinct.erase i item,
    (h.apart.symm.erase i item).symm, h.uid, ?_, h.pendingInj⟩
  · intro j e he hUid
    rcases getElem?_set_cases he with ⟨-, rfl⟩ | ⟨-, he⟩
    · exact absurd rfl hUid
    · exact h.asyncUsed j e he hUid
  · intro k hk
    obtain ⟨hLt, hNewS, hNewA⟩ := h.pending k hk
    exact ⟨hLt, hNewS, not_has_erase (h.uid k hLt) hNewA⟩

theorem uid_of_mem_wiped {α : Type} {t : List (Slot α)} {item : α} {e : Slot α}
    (h : e ∈ t.map fun _ => ⟨0, item⟩) : e.uid = 0 := by
  obtain ⟨-, -, rfl⟩ := List.mem_map.mp h
  rfl

theorem wipe (h : Tables cfg next uidOf sync async P) :
    Tables cfg next uidOf (sync.map fun _ => ⟨0, none⟩)
      (async.map fun _ => ⟨0, none, none, none⟩) P := by
  refine ⟨?_, ?_, ?_, ?_, ?_, h.uid, ?_, h.pendingInj⟩
  · exact fun i e he hUid => absurd (uid_of_mem_wiped (List.mem_of_getElem? he)) hUid
  · exact fun i e he hUid => absurd (uid_of_mem_wiped (List.mem_of_getElem? he)) hUid
  · exact fun i j e f hi _ hUid => absurd (uid_of_mem_wiped (List.mem_of_getElem? hi)) hUid
  · exact fun i j e f hi _ hUid => absurd (uid_of_mem_wiped (List.mem_of_getElem? hi)) hUid
  · rintro u hNe ⟨e, he, rfl⟩
    exact absurd (uid_of_mem_wiped he) hNe
  · intro k hk
    have hLt := (h.pending k hk).1
    have hNe := h.uid k hLt
    refine ⟨hLt, ?_, ?_⟩
    · rintro ⟨e, he, hEq⟩
      exact hNe (hEq.symm.trans (uid_of_mem_wiped he))
    · rintro ⟨e, he, hEq⟩
      exact hNe (hEq.symm.trans (uid_of_mem_wiped he))

/-- A request with a fresh uid. -/
theorem issue (h : Tables cfg next uidOf sync async P) {u : Nat} (hNe : u ≠ 0)
    (hSync : ¬ Has sync u) (hAsync : ¬ Has async u) (hFresh : ∀ k, P k → uidOf k ≠ u)
    (hP : ∀ k, P' k → P k ∨ k = next) :
    Tables cfg (next + 1) (Function.update uidOf next u) sync async P' := by
  have hOld : ∀ k < next, Function.update uidOf next u k = uidOf k := fun k hk =>
    Function.update_of_ne (by omega) _ _
  refine ⟨?_, ?_, h.syncDistinct, h.asyncDistinct, h.apart, ?_, ?_, ?_⟩
  · intro i e he hUid
    obtain ⟨k, hk, hKind, rfl⟩ := h.syncUsed i e he hUid
    exact ⟨k, by omega, hKind, by rw [syncEntry, syncEntry, hOld k hk]⟩
  · intro i e he hUid
    obtain ⟨k, hk, hKind, rfl⟩ := h.asyncUsed i e he hUid
    exact ⟨k, by omega, hKind, by rw [asyncEntry, asyncEntry, hOld k hk]⟩
  · intro k hk
    by_cases hEq : k = next
    · rw [hEq, Function.update_self]
      exact hNe
    · rw [Function.update_of_ne hEq]
      exact h.uid k (by omega)
  · intro k hk
    rcases hP k hk with hk | rfl
    · obtain ⟨hLt, hRest⟩ := h.pending k hk
      rw [hOld k hLt]
      exact ⟨by omega, hRest⟩
    · rw [Function.update_self]
      exact ⟨by omega, hSync, hAsync⟩
  · intro j k hj hk hEq
    rcases hP j hj with hj | rfl
    · rcases hP k hk with hk | rfl
      · rw [hOld j (h.pending j hj).1, hOld k (h.pending k hk).1] at hEq
        exact h.pendingInj j k hj hk hEq
      · rw [hOld j (h.pending j hj).1, Function.update_self] at hEq
        exact absurd hEq (hFresh j hj)
    · rcases hP k hk with hk | rfl
      · rw [hOld k (h.pending k hk).1, Function.update_self] at hEq
        exact absurd hEq.symm (hFresh k hk)
      · rfl

end Tables

/-! ## Every run with fresh uids -/

namespace Core

variable {cfg : Config} {s s' : Core}

/-- A request that is to be registered, in the state `s`. -/
def Pending (cfg : Config) (s : Core) (k : Nat) : Prop :=
  Rpc.Pending cfg s.caller s.rpcTxQ s.tx.early k

instance (cfg : Config) (s : Core) (k : Nat) : Decidable (s.Pending cfg k) :=
  inferInstanceAs (Decidable (Rpc.Pending ..))

structure Sound (cfg : Config) (s : Core) : Prop where
  queued : Queued s.next s.caller s.rpcTxQ s.tx.held
  tables : Tables cfg s.next s.uidOf s.syncRspTable s.asyncRspTable (s.Pending cfg)
  kind : ∀ k, (s.caller k).syncOnly = true → (cfg.app k).async = false
  timed : ∀ k, s.tx.timed = some k → (cfg.app k).async = true

/-- The uid that a new request gets is not that of an entry, nor that of a request which is
still to be registered. Since uids come from a counter, it is only after 2^32 - 1 requests
that this can fail. -/
def FreshUid (cfg : Config) (s : Core) : Action → Prop
  | .sendReq => ¬ Has s.syncRspTable s.nextUid ∧ ¬ Has s.asyncRspTable s.nextUid ∧
      ∀ k < s.next, s.Pending cfg k → s.uidOf k ≠ s.nextUid
  | _ => True

instance (cfg : Config) (s : Core) (a : Action) : Decidable (FreshUid cfg s a) := by
  apply Action.casesOn (motive := fun a => Decidable (FreshUid cfg s a)) a <;> intros <;>
    unfold FreshUid <;> infer_instance

theorem nextUid_ne_zero (s : Core) : s.nextUid ≠ 0 := by
  unfold nextUid
  split
  · decide
  · assumption

/-- Giving a semaphore changes nothing but semaphores. -/
theorem postSyncRespSem_frame (resp : Resp) (s : Core) :
    ∃ sem woken fault, s.postSyncRespSem resp = { s with sem, woken, fault } := by
  unfold postSyncRespSem
  split
  · exact ⟨_, _, _, rfl⟩
  · split
    · split
      · exact ⟨_, _, _, rfl⟩
      · split
        · exact ⟨_, _, _, rfl⟩
        · exact ⟨_, _, _, rfl⟩
    · exact ⟨_, _, _, rfl⟩

/-- Clearing an entry: nothing, or the entry is in use and becomes free. -/
theorem clearAsync_cases (i : Nat) (s : Core) :
    s.clearAsyncRespCallback i = s ∨
      ∃ e, s.asyncRspTable[i]? = some e ∧ e.uid ≠ 0 ∧
        s.clearAsyncRespCallback i = { s with
          timer := stopTimer s.timer e.item.timerHdl
          freed := freePtr s.freed e.item.appReq
          asyncRspTable := s.asyncRspTable.set i ⟨0, none, none, e.item.appReq⟩ } := by
  unfold clearAsyncRespCallback
  split
  · exact Or.inl rfl
  · rename_i e he
    split
    · exact Or.inl rfl
    · rename_i hNe
      exact Or.inr ⟨e, he, hNe, rfl⟩

theorem clearAsync_rx (i : Nat) (s : Core) : (s.clearAsyncRespCallback i).rx = s.rx := by
  rcases clearAsync_cases i s with hEq | ⟨e, -, -, hEq⟩ <;> rw [hEq]

theorem clearAsync_setRx (i : Nat) (s : Core) (rx : RxPc) :
    { s.clearAsyncRespCallback i with rx } = { s with rx }.clearAsyncRespCallback i := by
  unfold clearAsyncRespCallback
  cases s.asyncRspTable[i]? with
  | none => rfl
  | some e =>
    dsimp only
    split <;> rfl

namespace Sound

theorem touch (h : Sound cfg s) (k : Nat) : Sound cfg (s.touch k) :=
  ⟨h.queued, h.tables, h.kind, h.timed⟩

theorem free (h : Sound cfg s) (k : Nat) : Sound cfg (s.free k) :=
  ⟨h.queued, h.tables, h.kind, h.timed⟩

theorem kind_update (h : Sound cfg s) {k : Nat} {pc : CallerPc}
    (hKind : pc.syncOnly = true → (cfg.app k).async = false) (j : Nat)
    (hj : (Function.update s.caller k pc j).syncOnly = true) : (cfg.app j).async = false := by
  by_cases hEq : j = k
  · subst hEq
    rw [Function.update_self] at hj
    exact hKind hj
  · rw [Function.update_of_ne hEq] at hj
    exact h.kind j hj

/-- A thread goes on behind its registration. -/
theorem setCaller (h : Sound cfg s) {k : Nat} {pc : CallerPc} (hBorn : s.caller k ≠ .unborn)
    (hQueued : (s.caller k).queued = true → pc.queued = true) (hQ : pc ≠ .queueing)
    (hR : pc ≠ .registering) (hKind : pc.syncOnly = true → (cfg.app k).async = false) :
    Sound cfg (s.setCaller k pc) :=
  ⟨h.queued.move hBorn hQueued, h.tables.mono fun _ hj => Pending.of_move hQ hR hj,
    h.kind_update hKind, h.timed⟩

theorem clearAsync (h : Sound cfg s) (i : Nat) : Sound cfg (s.clearAsyncRespCallback i) := by
  rcases clearAsync_cases i s with hEq | ⟨e, -, -, hEq⟩
  · rwa [hEq]
  · rw [hEq]
    exact ⟨h.queued, h.tables.eraseAsync i _, h.kind, h.timed⟩

theorem postSync (h : Sound cfg s) (resp : Resp) : Sound cfg (s.postSyncRespSem resp) := by
  obtain ⟨sem, woken, fault, hEq⟩ := postSyncRespSem_frame resp s
  rw [hEq]
  exact ⟨h.queued, h.tables, h.kind, h.timed⟩

/-- The tx thread goes on with its request, or is done with it. -/
theorem setTx (h : Sound cfg s) {tx : TxPc} (hHeld : tx.held = s.tx.held ∨ tx.held = none)
    (hEarly : tx.early = s.tx.early ∨ tx.early = none)
    (hTimed : tx.timed = s.tx.timed ∨ tx.timed = none) : Sound cfg { s with tx } := by
  refine ⟨?_, ?_, h.kind, ?_⟩
  · rcases hHeld with hEq | hEq
    · simpa only [hEq] using h.queued
    · simpa only [hEq] using h.queued.release
  · apply h.tables.mono
    intro k hk
    unfold Pending at hk ⊢
    rcases hEarly with hEq | hEq
    · simpa only [hEq] using hk
    · simp only [hEq] at hk
      exact hk.of_release
  · intro k hk
    rcases hTimed with hEq | hEq
    · exact h.timed k (hEq ▸ hk)
    · rw [hEq] at hk
      cases hk

end Sound

/-! ### Callers -/

theorem sendReq_sound (h : Sound cfg s) (hFresh : FreshUid cfg s .sendReq)
    (hStep : sendReq cfg s = some s') : Sound cfg s' := by
  cases hStep
  obtain ⟨hSync, hAsync, hNew⟩ := hFresh
  refine ⟨h.queued.issue _, ?_, ?_, h.timed⟩
  · apply h.tables.issue s.nextUid_ne_zero hSync hAsync
    · exact fun k hk => hNew k (h.tables.pending k hk).1 hk
    · intro k hk
      by_cases hEq : k = s.next
      · exact Or.inr hEq
      · refine Or.inl ?_
        unfold Pending Rpc.Pending at hk ⊢
        simpa only [Function.update_of_ne hEq] using hk
  · apply h.kind_update
    cases (cfg.app s.next).async with
    | false => exact fun _ => rfl
    | true => exact fun hOnly => by cases hOnly

theorem setSyncRespSem_sound {createOk : Bool} {k : Nat} (h : Sound cfg s)
    (hStep : setSyncRespSem cfg createOk k s = some s') : Sound cfg s' := by
  unfold setSyncRespSem at hStep
  split at hStep
  · rename_i hPc
    have hBorn : s.caller k ≠ .unborn := by rw [hPc]; decide
    have hSync : (cfg.app k).async = false := h.kind k (by rw [hPc]; rfl)
    have hFail : Sound cfg ((s.touch k).setCaller k .failing) :=
      (h.setCaller hBorn (by rw [hPc]; exact id) (by decide) (by decide) fun _ => hSync).touch k
    split at hStep
    · cases hStep
      exact hFail
    · split at hStep
      · cases hStep
        exact ⟨hFail.queued, hFail.tables, hFail.kind, hFail.timed⟩
      · cases hStep
        refine ⟨h.queued.move hBorn (by rw [hPc]; exact id), ?_, h.kind_update fun _ => hSync,
          h.timed⟩
        have hPending : s.Pending cfg k := by
          unfold Pending Rpc.Pending
          rw [hSync]
          exact hPc
        apply h.tables.fillSync hPending hSync
        intro j hj
        unfold Pending Rpc.Pending at hj ⊢
        by_cases hEq : j = k
        · subst hEq
          simp [setCaller, hSync] at hj
        · simp only [setCaller, Function.update_of_ne hEq] at hj
          exact ⟨hj, hEq⟩
  · cases hStep

theorem queueTx_sound {ok : Bool} {k : Nat} (h : Sound cfg s)
    (hStep : queueTx ok k s = some s') : Sound cfg s' := by
  unfold queueTx at hStep
  split at hStep
  · rename_i hPc
    split at hStep
    · split at hStep
      · cases hStep
        exact ⟨h.queued.enqueue hPc, h.tables.mono fun _ hj => Pending.of_enqueue hPc hj,
          h.kind_update fun hOnly => (by cases hOnly), h.timed⟩
      · cases hStep
    · cases hStep
      exact h.setCaller (by rw [hPc]; decide) (by rw [hPc]; exact id) (by decide) (by decide)
        fun hOnly => by cases hOnly
  · cases hStep

/-- The last look at the request comes behind its free. -/
theorem failReq_some {k : Nat} (hStep : failReq k s = some s') :
    s.caller k = .failing ∧ s' = { s with
      caller := Function.update s.caller k .failed
      freed := Function.update s.freed k (s.freed k + 1)
      badAccess := true
      sem := if s.sem k = .absent then s.sem else Function.update s.sem k .deleted } := by
  unfold failReq at hStep
  split at hStep
  · rename_i hPc
    have hTouched : (((s.touch k).free k).touch k).badAccess = true := by
      simp [touch, free]
    refine ⟨hPc, (Option.some.inj hStep).symm.trans ?_⟩
    simp only [setCaller, hTouched]
    rfl
  · cases hStep

theorem failReq_sound {k : Nat} (h : Sound cfg s) (hStep : failReq k s = some s') :
    Sound cfg s' := by
  obtain ⟨hPc, rfl⟩ := failReq_some hStep
  have hFailed : Sound cfg (s.setCaller k .failed) :=
    h.setCaller (by rw [hPc]; decide) (by rw [hPc]; exact id) (by decide) (by decide)
      fun hOnly => by cases hOnly
  exact ⟨hFailed.queued, hFailed.tables, hFailed.kind, hFailed.timed⟩

theorem rpcTxInd_sound {k : Nat} (h : Sound cfg s) (hStep : rpcTxInd cfg k s = some s') :
    Sound cfg s' := by
  unfold rpcTxInd at hStep
  split at hStep
  · rename_i hPc
    have hReturned : Sound cfg (s.setCaller k .returned) :=
      h.setCaller (by rw [hPc]; decide) (fun _ => rfl) (by decide) (by decide)
        fun hOnly => by cases hOnly
    cases hStep
    exact ⟨hReturned.queued, hReturned.tables, hReturned.kind, hReturned.timed⟩
  · cases hStep

theorem readRspCb_sound {k : Nat} (h : Sound cfg s) (hStep : readRspCb cfg k s = some s') :
    Sound cfg s' := by
  unfold readRspCb at hStep
  split at hStep
  · rename_i hPc
    have hBorn : s.caller k ≠ .unborn := by rw [hPc]; decide
    cases hStep
    cases hAsync : (cfg.app k).async with
    | true =>
      exact (h.setCaller hBorn (fun _ => rfl) (by decide) (by decide)
        fun hOnly => by cases hOnly).touch k
    | false =>
      exact (h.setCaller hBorn (fun _ => rfl) (by decide) (by decide) fun _ => hAsync).touch k
  · cases hStep

theorem lookupSem_sound {k : Nat} (h : Sound cfg s) (hStep : lookupSem cfg k s = some s') :
    Sound cfg s' := by
  unfold lookupSem at hStep
  split at hStep
  · rename_i hPc
    have hBorn : s.caller k ≠ .unborn := by rw [hPc]; decide
    have hSync : (cfg.app k).async = false := h.kind k (by rw [hPc]; rfl)
    have hGo : ∀ pc : CallerPc, pc.queued = true → pc ≠ .queueing → pc ≠ .registering →
        Sound cfg ((s.touch k).setCaller k pc) := fun pc hQueued hQ hR =>
      (h.setCaller hBorn (fun _ => hQueued) hQ hR fun _ => hSync).touch k
    split at hStep
    · cases hStep
      exact hGo _ rfl (by simp) (by simp)
    · split at hStep
      · cases hStep
        exact hGo _ rfl (by simp) (by simp)
      · cases hStep
        exact hGo _ rfl (by simp) (by simp)
  · cases hStep

/-- From `h_sem_take` on a synchronous request goes through places that do not matter here. -/
theorem waiting_sound {k : Nat} {pc : CallerPc} (h : Sound cfg s)
    (hOnly : (s.caller k).syncOnly = true) (hQueued : pc.queued = true) (hQ : pc ≠ .queueing)
    (hR : pc ≠ .registering) : Sound cfg (s.setCaller k pc) := by
  have hBorn : s.caller k ≠ .unborn := by
    intro hUnborn
    rw [hUnborn] at hOnly
    cases hOnly
  exact h.setCaller hBorn (fun _ => hQueued) hQ hR fun _ => h.kind k hOnly

theorem takeSem_sound {k : Nat} (h : Sound cfg s) (hStep : takeSem k s = some s') :
    Sound cfg s' := by
  unfold takeSem at hStep
  split at hStep
  · rename_i i j hPc
    split at hStep
    · have hTaken : Sound cfg (s.setCaller k (.taken i true)) :=
        waiting_sound h (by rw [hPc]; rfl) rfl (by simp) (by simp)
      cases hStep
      exact ⟨hTaken.queued, hTaken.tables, hTaken.kind, hTaken.timed⟩
    · cases hStep
  · cases hStep

theorem semTimeout_sound {k : Nat} (h : Sound cfg s) (hStep : semTimeout k s = some s') :
    Sound cfg s' := by
  unfold semTimeout at hStep
  split at hStep
  · rename_i i sem hPc
    split at hStep
    · cases hStep
    · cases hStep
      exact waiting_sound h (by rw [hPc]; rfl) rfl (by simp) (by simp)
  · cases hStep

theorem clearSync_sound {k : Nat} (h : Sound cfg s) (hStep : clearSync k s = some s') :
    Sound cfg s' := by
  unfold clearSync at hStep
  split at hStep
  · rename_i i ok hPc
    have hGo : Sound cfg (s.setCaller k (if ok then .receiving else .freeing none)) := by
      cases ok <;> exact waiting_sound h (by rw [hPc]; rfl) rfl (by simp) (by simp)
    cases hStep
    exact ⟨hGo.queued, hGo.tables.eraseSync i none, hGo.kind, hGo.timed⟩
  · cases hStep

theorem recvRx_sound {k : Nat} (h : Sound cfg s) (hStep : recvRx k s = some s') :
    Sound cfg s' := by
  unfold recvRx at hStep
  split at hStep
  · rename_i hPc
    have hGo : ∀ resp, Sound cfg (s.setCaller k (.freeing resp)) := fun resp =>
      waiting_sound h (by rw [hPc]; rfl) rfl (by simp) (by simp)
    split at hStep
    · split at hStep
      · cases hStep
      · rename_i resp rest hQueue
        have hReceived := hGo (some resp)
        cases hStep
        exact ⟨hReceived.queued, hReceived.tables, hReceived.kind, hReceived.timed⟩
    · cases hStep
      exact hGo none
  · cases hStep

theorem freeReq_sound {k : Nat} (h : Sound cfg s) (hStep : freeReq k s = some s') :
    Sound cfg s' := by
  unfold freeReq at hStep
  split at hStep
  · rename_i resp hPc
    cases hStep
    have hFinished : Sound cfg (s.setCaller k (.finished resp)) :=
      waiting_sound h (by rw [hPc]; rfl) rfl (by simp) (by simp)
    exact (hFinished.touch k).free k
  · cases hStep

/-! ### The tx thread -/

theorem recvTx_sound (h : Sound cfg s) (hStep : recvTx s = some s') : Sound cfg s' := by
  unfold recvTx at hStep
  split at hStep
  · rename_i hPc
    split at hStep
    · split at hStep
      · cases hStep
      · rename_i k rest hQueue
        have hQueued := h.queued
        rw [hPc, hQueue] at hQueued
        cases hStep
        refine ⟨hQueued.dequeue, h.tables.mono ?_, h.kind, fun j hj => by cases hj⟩
        intro j hj
        have hOld := Pending.of_dequeue hj
        unfold Pending
        rwa [hPc, hQueue]
    · cases hStep
      exact h.setTx (Or.inr rfl) (Or.inr rfl) (Or.inr rfl)
  · cases hStep

theorem composeReq_sound {ok : Bool} (h : Sound cfg s) (hStep : composeReq cfg ok s = some s') :
    Sound cfg s' := by
  unfold composeReq at hStep
  split at hStep
  · rename_i k hPc
    have hHeld : ∀ tx : TxPc, tx.held = some k → tx.held = s.tx.held := by
      intro tx hTx
      rw [hPc, hTx]
      rfl
    cases hStep
    cases ok with
    | false => exact (h.setTx (Or.inl (hHeld (.notifying k) rfl)) (Or.inr rfl) (Or.inr rfl)).touch k
    | true =>
      cases hAsync : (cfg.app k).async with
      | false =>
        exact (h.setTx (Or.inl (hHeld (.sending k) rfl)) (Or.inr rfl) (Or.inr rfl)).touch k
      | true =>
        have hNext : Sound cfg { s with tx := .starting k } := by
          have hQueued := h.queued
          have hTables := h.tables
          unfold Pending at hTables
          rw [hPc] at hQueued hTables
          refine ⟨hQueued, hTables, h.kind, ?_⟩
          intro j hj
          rw [← Option.some.inj hj]
          exact hAsync
        exact hNext.touch k
  · cases hStep

/-- A step of `process_rpc_tx_msg` behind the registration. -/
theorem setTx_sound {k : Nat} {tx : TxPc} (h : Sound cfg s) (hOld : s.tx.held = some k)
    (hHeld : tx.held = some k ∨ tx.held = none) (hEarly : tx.early = none)
    (hTimed : tx.timed = none) : Sound cfg { s with tx } :=
  h.setTx (hHeld.imp_left fun hEq => hEq.trans hOld.symm) (Or.inr hEarly) (Or.inr hTimed)

theorem startTimer_sound {ok : Bool} (h : Sound cfg s) (hStep : startTimer ok s = some s') :
    Sound cfg s' := by
  unfold startTimer at hStep
  split at hStep
  · rename_i k hPc
    split at hStep
    · have hNext : Sound cfg { s with tx := .registering k } :=
        h.setTx (Or.inl (by rw [hPc]; rfl)) (Or.inl (by rw [hPc]; rfl)) (Or.inl (by rw [hPc]; rfl))
      cases hStep
      exact ⟨hNext.queued, hNext.tables, hNext.kind, hNext.timed⟩
    · cases hStep
      exact (setTx_sound h (by rw [hPc]; rfl) (Or.inl rfl) rfl rfl).touch k
  · cases hStep

theorem setAsyncRespCallback_sound (h : Sound cfg s)
    (hStep : setAsyncRespCallback cfg s = some s') : Sound cfg s' := by
  unfold setAsyncRespCallback at hStep
  split at hStep
  · rename_i k hPc
    have hGo : ∀ tx : TxPc, tx.held = some k → tx.early = none → tx.timed = none →
        Sound cfg { s with tx } := fun tx hHeld hEarly hTimed =>
      setTx_sound h (by rw [hPc]; rfl) (Or.inl hHeld) hEarly hTimed
    split at hStep
    · cases hStep
      exact (hGo (.notifying k) rfl rfl rfl).touch k
    · split at hStep
      · cases hStep
        exact (hGo (.notifying k) rfl rfl rfl).touch k
      · rename_i i hFree
        have hNext := hGo (.sending k) rfl rfl rfl
        have hAsync : (cfg.app k).async = true := h.timed k (by rw [hPc]; rfl)
        have hPending : s.Pending cfg k := by
          unfold Pending Rpc.Pending
          rw [if_pos hAsync, hPc]
          exact Or.inr (Or.inr rfl)
        cases hStep
        refine ⟨hNext.queued, ?_, hNext.kind, hNext.timed⟩
        apply h.tables.fillAsync hPending hAsync
        intro j hj
        refine ⟨Pending.of_release hj, ?_⟩
        -- the request has left the queue, and the thread that sent it is further on
        rintro rfl
        have hHeld : s.tx.held = some j := by rw [hPc]; rfl
        have hNot := h.queued.single j hHeld
        have hQueued := h.queued.queued j (Or.inr hHeld)
        unfold Pending Rpc.Pending at hj
        rw [if_pos hAsync] at hj
        rcases hj with hj | hj | hj
        · rw [show s.caller j = .queueing from hj] at hQueued
          cases hQueued
        · exact hNot hj
        · cases hj
  · cases hStep

theorem serialSend_sound {ok : Bool} (h : Sound cfg s) (hStep : serialSend ok s = some s') :
    Sound cfg s' := by
  unfold serialSend at hStep
  split at hStep
  · rename_i k hPc
    have hHeld : s.tx.held = some k := by rw [hPc]; rfl
    cases hStep
    cases ok with
    | true => exact setTx_sound h hHeld (Or.inl rfl) rfl rfl
    | false => exact setTx_sound h hHeld (Or.inl rfl) rfl rfl
  · cases hStep

theorem txCleanup_sound (h : Sound cfg s) (hStep : txCleanup s = some s') : Sound cfg s' := by
  unfold txCleanup at hStep
  split at hStep
  · rename_i k hPc
    cases hStep
    exact (setTx_sound (k := k) h (by rw [hPc]; rfl) (Or.inr rfl) rfl rfl).touch k
  · cases hStep

theorem notifyFail_sound {callocOk : Bool} (h : Sound cfg s)
    (hStep : notifyFail cfg callocOk s = some s') : Sound cfg s' := by
  unfold notifyFail at hStep
  split at hStep
  · rename_i k hPc
    have hHeld : s.tx.held = some k := by rw [hPc]; rfl
    have hNext : Sound cfg { s with tx := .failCleaning k } :=
      setTx_sound h hHeld (Or.inl rfl) rfl rfl
    split at hStep
    · cases hStep
      exact hNext.touch k
    · split at hStep
      · cases hStep
        exact ⟨hNext.queued, hNext.tables, hNext.kind, hNext.timed⟩
      · split at hStep
        · cases hStep
          exact hNext.touch k
        · split at hStep
          · have hPost : Sound cfg { s with tx := .posting k ⟨(cfg.app k).expRespMsgId, 0⟩ } :=
              setTx_sound h hHeld (Or.inl rfl) rfl rfl
            cases hStep
            exact ⟨hPost.queued, hPost.tables, hPost.kind, hPost.timed⟩
          · cases hStep
  · cases hStep

theorem txPostSync_sound (h : Sound cfg s) (hStep : txPostSync s = some s') : Sound cfg s' := by
  unfold txPostSync at hStep
  split at hStep
  · rename_i k resp hPc
    obtain ⟨sem, woken, fault, hEq⟩ := postSyncRespSem_frame resp s
    have hNext : Sound cfg { s with tx := .failCleaning k } :=
      setTx_sound h (by rw [hPc]; rfl) (Or.inl rfl) rfl rfl
    rw [hEq] at hStep
    cases hStep
    exact ⟨hNext.queued, hNext.tables, hNext.kind, hNext.timed⟩
  · cases hStep

theorem failCleanup_sound (h : Sound cfg s) (hStep : failCleanup cfg s = some s') :
    Sound cfg s' := by
  unfold failCleanup at hStep
  split at hStep
  · rename_i k hPc
    have hHeld : s.tx.held = some k := by rw [hPc]; rfl
    cases hStep
    cases (cfg.app k).async with
    | true => exact (setTx_sound h hHeld (Or.inl rfl) rfl rfl).touch k
    | false => exact (setTx_sound h hHeld (Or.inr rfl) rfl rfl).touch k
  · cases hStep

theorem scanAsync_sound (h : Sound cfg s) (hStep : scanAsync s = some s') : Sound cfg s' := by
  unfold scanAsync at hStep
  split at hStep
  · rename_i k hPc
    have hIdle : Sound cfg { s with tx := .idle } :=
      setTx_sound (k := k) h (by rw [hPc]; rfl) (Or.inr rfl) rfl rfl
    split at hStep
    · cases hStep
      exact hIdle.touch k
    · cases hStep
      exact (hIdle.touch k).free k
  · cases hStep

/-! ### The other threads -/

theorem isAsyncAvailable_sound (h : Sound cfg s) (hStep : isAsyncAvailable s = some s') :
    Sound cfg s' := by
  unfold isAsyncAvailable at hStep
  split at hStep
  · split at hStep
    · cases hStep
      exact ⟨h.queued, h.tables, h.kind, h.timed⟩
    · cases hStep
      exact ⟨h.queued, h.tables, h.kind, h.timed⟩
  · cases hStep

theorem callAsync_sound (h : Sound cfg s) (hStep : callAsync s = some s') : Sound cfg s' := by
  unfold callAsync at hStep
  split at hStep
  · split at hStep
    · cases hStep
      exact ⟨h.queued, h.tables, h.kind, h.timed⟩
    · split at hStep
      · cases hStep
        exact ⟨h.queued, h.tables, h.kind, h.timed⟩
      · cases hStep
        exact ⟨h.queued, h.tables, h.kind, h.timed⟩
  · cases hStep

theorem rxClearAsync_sound (h : Sound cfg s) (hStep : rxClearAsync s = some s') :
    Sound cfg s' := by
  unfold rxClearAsync at hStep
  split at hStep
  · rename_i i hPc
    have hCleared := h.clearAsync i
    cases hStep
    exact ⟨hCleared.queued, hCleared.tables, hCleared.kind, hCleared.timed⟩
  · cases hStep

theorem queueRx_sound (h : Sound cfg s) (hStep : queueRx s = some s') : Sound cfg s' := by
  unfold queueRx at hStep
  split at hStep
  · split at hStep
    · cases hStep
      exact ⟨h.queued, h.tables, h.kind, h.timed⟩
    · split at hStep
      · cases hStep
        exact ⟨h.queued, h.tables, h.kind, h.timed⟩
      · cases hStep
  · cases hStep

theorem rxPostSync_sound (h : Sound cfg s) (hStep : rxPostSync s = some s') : Sound cfg s' := by
  unfold rxPostSync at hStep
  split at hStep
  · rename_i resp hPc
    have hPosted := h.postSync resp
    cases hStep
    exact ⟨hPosted.queued, hPosted.tables, hPosted.kind, hPosted.timed⟩
  · cases hStep

theorem timerClear_sound {k : Nat} (h : Sound cfg s) (hStep : timerClear k s = some s') :
    Sound cfg s' := by
  unfold timerClear at hStep
  split at hStep
  · split at hStep
    · cases hStep
      exact ⟨h.queued, h.tables, h.kind, h.timed⟩
    · rename_i i hFind
      have hCleared := h.clearAsync i
      cases hStep
      exact ⟨hCleared.queued, hCleared.tables, hCleared.kind, hCleared.timed⟩
  · cases hStep

theorem drainTx_sound (h : Sound cfg s) (hStep : drainTx s = some s') : Sound cfg s' := by
  unfold drainTx at hStep
  split at hStep
  · cases hStep
    exact ⟨h.queued.drain, h.tables.mono fun _ hj => Pending.of_drain hj, h.kind, h.timed⟩
  · cases hStep

theorem cleanupTables_sound (h : Sound cfg s) (hStep : cleanupTables s = some s') :
    Sound cfg s' := by
  unfold cleanupTables at hStep
  split at hStep
  · cases hStep
    exact ⟨h.queued, h.tables.wipe, h.kind, h.timed⟩
  · cases hStep

theorem cancelThreads_sound (h : Sound cfg s) (hStep : cancelThreads s = some s') :
    Sound cfg s' := by
  unfold cancelThreads at hStep
  split at hStep
  · have hNext : Sound cfg { s with tx := .cancelled } :=
      h.setTx (Or.inr rfl) (Or.inr rfl) (Or.inr rfl)
    cases hStep
    exact ⟨hNext.queued, hNext.tables, hNext.kind, hNext.timed⟩
  · cases hStep

theorem init_sound (cfg : Config) : Sound cfg (init cfg) := by
  have hSync : ∀ e ∈ (init cfg).syncRspTable, e.uid = 0 := by
    intro e he
    rw [List.eq_of_mem_replicate he]
  have hAsync : ∀ e ∈ (init cfg).asyncRspTable, e.uid = 0 := by
    intro e he
    rw [List.eq_of_mem_replicate he]
  have hNone : ∀ k, ¬ (init cfg).Pending cfg k := by
    intro k
    unfold Pending Rpc.Pending
    split
    · rintro (h | h | h) <;> cases h
    · rintro ⟨⟩
  refine ⟨⟨List.nodup_nil, fun k hk => (by cases hk), fun k hk => ?_, fun _ _ => rfl⟩,
    ⟨?_, ?_, ?_, ?_, ?_, fun k hk => absurd hk (Nat.not_lt_zero k),
      fun k hk => absurd hk (hNone k), fun j _ hj => absurd hj (hNone j)⟩,
    fun k hk => (by cases hk), fun k hk => (by cases hk)⟩
  · rcases hk with hk | hk <;> cases hk
  · exact fun i e he hUid => absurd (hSync e (List.mem_of_getElem? he)) hUid
  · exact fun i e he hUid => absurd (hAsync e (List.mem_of_getElem? he)) hUid
  · exact fun i j e f hi _ hUid => absurd (hSync e (List.mem_of_getElem? hi)) hUid
  · exact fun i j e f hi _ hUid => absurd (hAsync e (List.mem_of_getElem? hi)) hUid
  · rintro u hNe ⟨e, he, rfl⟩
    exact absurd (hSync e he) hNe

/-- Every step that takes a fresh uid keeps the tables sound. -/
theorem step_sound {a : Action} (h : Sound cfg s) (hFresh : FreshUid cfg s a)
    (hStep : step cfg s a = some s') : Sound cfg s' := by
  unfold step at hStep
  split at hStep
  · cases hStep
  · cases a with
    | sendReq => exact sendReq_sound h hFresh hStep
    | setSyncRespSem k createOk => exact setSyncRespSem_sound h hStep
    | queueTx k ok => exact queueTx_sound h hStep
    | failReq k => exact failReq_sound h hStep
    | rpcTxInd k => exact rpcTxInd_sound h hStep
    | readRspCb k => exact readRspCb_sound h hStep
    | lookupSem k => exact lookupSem_sound h hStep
    | takeSem k => exact takeSem_sound h hStep
    | semTimeout k => exact semTimeout_sound h hStep
    | clearSync k => exact clearSync_sound h hStep
    | recvRx k => exact recvRx_sound h hStep
    | freeReq k => exact freeReq_sound h hStep
    | recvTx => exact recvTx_sound h hStep
    | composeReq ok => exact composeReq_sound h hStep
    | startTimer ok => exact startTimer_sound h hStep
    | setAsyncRespCallback => exact setAsyncRespCallback_sound h hStep
    | serialSend ok => exact serialSend_sound h hStep
    | txCleanup => exact txCleanup_sound h hStep
    | notifyFail callocOk => exact notifyFail_sound h hStep
    | txPostSync => exact txPostSync_sound h hStep
    | failCleanup => exact failCleanup_sound h hStep
    | scanAsync => exact scanAsync_sound h hStep
    | isAsyncAvailable => exact isAsyncAvailable_sound h hStep
    | callAsync => exact callAsync_sound h hStep
    | rxClearAsync => exact rxClearAsync_sound h hStep
    | queueRx => exact queueRx_sound h hStep
    | rxPostSync => exact rxPostSync_sound h hStep
    | timerClear k => exact timerClear_sound h hStep
    | drainTx => exact drainTx_sound h hStep
    | cleanupTables => exact cleanupTables_sound h hStep
    | cancelThreads => exact cancelThreads_sound h hStep
    | txTakeSem =>
      simp only [txTakeSem, Option.ite_none_right_eq_some] at hStep
      obtain ⟨-, hEq⟩ := hStep
      have hNext : Sound cfg { s with tx := .dequeuing } :=
        h.setTx (Or.inr rfl) (Or.inr rfl) (Or.inr rfl)
      cases hEq
      exact ⟨hNext.queued, hNext.tables, hNext.kind, hNext.timed⟩
    | recvResp resp | expire k | timerRead k callocOk | timerCall k | drainRx =>
      -- these change neither the tables nor the way of a request to them
      simp only [recvResp, expire, timerRead, timerCall, drainRx,
        Option.ite_none_right_eq_some] at hStep
      obtain ⟨-, hEq⟩ := hStep
      cases hEq
      exact ⟨h.queued, h.tables, h.kind, h.timed⟩

end Core

end EspHosted.Rpc
