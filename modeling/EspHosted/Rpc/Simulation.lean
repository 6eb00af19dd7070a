import EspHosted.Rpc.Reduction

/-!
# One thread at a table

As long as no thread turns to a table while another is in the middle of a function on it (`Alone`),
a run of `Unlocked` does what a run of `Core` does, in which each of these functions is one step.

* `Rel`: how the memory differs from the state of `Core` while a function on a table is going on;
* `Before`: the uids that stand in the memory are those of sound tables, also while that of an entry
  which is free in the state is still there;
* `simulates`: every step is a step of `Core`, the one that `commits` names, or none.
-/

namespace EspHosted.Rpc

open Slots Machine

namespace Unlocked

open Rpc.Core

variable {cfg : Config} {u v : Unlocked} {s s' : Core} {a : Action}

/-! ## The memory and the state -/

/-- The entry is in use. -/
def InUse (s : Core) (i : Nat) : Prop := ∃ e, s.asyncRspTable[i]? = some e ∧ e.uid ≠ 0

/-- The thread clears the entry because of this. -/
def Clears (s : Core) (i : Nat) : Thread → Prop
  | .timer k => k < s.next ∧ find s.asyncRspTable (s.uidOf k) = some i
  | _ => True

/-- `async_rsp_table` in the memory, while thread `t` is in the middle of a function on it: as in
the state, but for the writes that are still to be made for a function that counts as done, or for
`timer_hdl` of an entry that will be cleared. -/
def AsyncOpen (cfg : Config) (s : Core) (table : List (Slot AsyncItem)) (t : Thread) :
    AsyncPc → Prop
  | .setUid i k => table = s.asyncRspTable ∧ t = .tx ∧ findFree table = some i ∧
    (cfg.app k).expRespMsgId < rpcIdRespMax
  | .setCb i k => t = .tx ∧ s.tx = .sending k ∧
    s.asyncRspTable = setItem table i fun _ => ⟨some k, some k, some k⟩
  | .setTimer i k => t = .tx ∧ s.tx = .sending k ∧
    s.asyncRspTable = setItem table i ({ · with timerHdl := some k, appReq := some k })
  | .setReq i k => t = .tx ∧ s.tx = .sending k ∧
    s.asyncRspTable = setItem table i ({ · with appReq := some k })
  | .callCb i resp => table = s.asyncRspTable ∧ find table resp.uid = some i
  | .testUid i => table = s.asyncRspTable ∧ Clears s i t
  | .stopTimer i | .clearTimer i => table = s.asyncRspTable ∧ Clears s i t ∧ InUse s i
  | .freeReq i => table = setItem s.asyncRspTable i ({ · with timerHdl := none }) ∧
    Clears s i t ∧ InUse s i
  | .clearUid i =>
    s.asyncRspTable = setItem (setUid table i 0) i ({ · with cb := none })
  | .clearCb i => s.asyncRspTable = setItem table i ({ · with cb := none })

/-- `sync_rsp_table` in the memory, likewise. -/
def SyncOpen (cfg : Config) (s : Core) (table : List (Slot (Option Nat))) (t : Thread) :
    SyncPc → Prop
  | .setUid i k => table = s.syncRspTable ∧ t = .caller k ∧ findFree table = some i ∧
    (cfg.app k).expRespMsgId < rpcIdRespMax
  | .setSem i k => t = .caller k ∧ k < s.next ∧ s.caller k = .queueing ∧
    s.syncRspTable = setItem table i fun _ => some k
  | .giveSem i resp => table = s.syncRspTable ∧ find table resp.uid = some i ∧ resp.InRange
  | .clearUid i => s.syncRspTable = setItem (setUid table i 0) i fun _ => none
  | .clearSem i => s.syncRspTable = setItem table i fun _ => none

def AsyncRel (cfg : Config) (s : Core) (table : List (Slot AsyncItem)) :
    List (Thread × AsyncPc) → Prop
  | [] => table = s.asyncRspTable
  | [w] => AsyncOpen cfg s table w.1 w.2
  | _ => False

def SyncRel (cfg : Config) (s : Core) (table : List (Slot (Option Nat))) :
    List (Thread × SyncPc) → Prop
  | [] => table = s.syncRspTable
  | [w] => SyncOpen cfg s table w.1 w.2
  | _ => False

/-- The timer that was stopped already, for an entry that will be cleared. -/
def stopped (s : Core) : List (Thread × AsyncPc) → Option Nat
  | [(_, .clearTimer i)] | [(_, .freeReq i)] => (s.asyncRspTable[i]?).bind (·.item.timerHdl)
  | _ => none

/-- One thread at most is in the middle of a function on each table, and the memory is that of the
state but for what this thread has done or still has to do. -/
def Rel (cfg : Config) (u : Unlocked) (s : Core) : Prop :=
  ∃ async sync bad, u.core = s.shadow async sync (stopped s u.async) bad ∧
    AsyncRel cfg s async u.async ∧ SyncRel cfg s sync u.sync

theorem init_rel (cfg : Config) : Rel cfg (init cfg) (Core.init cfg) :=
  ⟨_, _, _, rfl, rfl, rfl⟩

/-! ## Steps of the others -/

theorem AsyncOpen.congr {table : List (Slot AsyncItem)} {t : Thread} {pc : AsyncPc}
    (h : AsyncOpen cfg s table t pc) (hTable : s'.asyncRspTable = s.asyncRspTable)
    (hTx : t = .tx → ∀ k, s.tx = .sending k → s'.tx = .sending k)
    (hUid : ∀ k < s.next, k < s'.next ∧ s'.uidOf k = s.uidOf k) : AsyncOpen cfg s' table t pc := by
  have hClears {i : Nat} (hOld : Clears s i t) : Clears s' i t := by
    cases t with
    | timer k =>
      obtain ⟨hLt, hFind⟩ := hOld
      obtain ⟨hLt', hSame⟩ := hUid k hLt
      refine ⟨hLt', ?_⟩
      rw [hTable, hSame]
      exact hFind
    | _ => trivial
  have hInUse {i : Nat} (hOld : InUse s i) : InUse s' i := by
    unfold InUse
    rw [hTable]
    exact hOld
  cases pc with
  | setUid i k => exact ⟨h.1.trans hTable.symm, h.2⟩
  | setCb i k | setTimer i k | setReq i k => exact ⟨h.1, hTx h.1 k h.2.1, hTable.trans h.2.2⟩
  | callCb i resp => exact ⟨h.1.trans hTable.symm, h.2⟩
  | testUid i => exact ⟨h.1.trans hTable.symm, hClears h.2⟩
  | stopTimer i | clearTimer i =>
    exact ⟨h.1.trans hTable.symm, hClears h.2.1, hInUse h.2.2⟩
  | freeReq i =>
    refine ⟨?_, hClears h.2.1, hInUse h.2.2⟩
    rw [hTable]
    exact h.1
  | clearUid i | clearCb i => exact hTable.trans h

theorem AsyncRel.congr {table : List (Slot AsyncItem)} {works : List (Thread × AsyncPc)}
    (h : AsyncRel cfg s table works) (hTable : s'.asyncRspTable = s.asyncRspTable)
    (hTx : ∀ w ∈ works, w.1 = .tx → ∀ k, s.tx = .sending k → s'.tx = .sending k)
    (hUid : ∀ k < s.next, k < s'.next ∧ s'.uidOf k = s.uidOf k) :
    AsyncRel cfg s' table works := by
  match works with
  | [] => exact Eq.trans h hTable.symm
  | [w] => exact AsyncOpen.congr h hTable (hTx w (List.mem_singleton_self w)) hUid
  | _ :: _ :: _ => exact h.elim

theorem SyncOpen.congr {table : List (Slot (Option Nat))} {t : Thread} {pc : SyncPc}
    (h : SyncOpen cfg s table t pc) (hTable : s'.syncRspTable = s.syncRspTable)
    (hNext : s.next ≤ s'.next)
    (hCaller : ∀ k < s.next, t = .caller k → s'.caller k = s.caller k) :
    SyncOpen cfg s' table t pc := by
  cases pc with
  | setUid i k => exact ⟨h.1.trans hTable.symm, h.2⟩
  | setSem i k =>
    obtain ⟨hThread, hLt, hPc, hSync⟩ := h
    exact ⟨hThread, Nat.lt_of_lt_of_le hLt hNext, (hCaller k hLt hThread).trans hPc,
      hTable.trans hSync⟩
  | giveSem i resp => exact ⟨h.1.trans hTable.symm, h.2⟩
  | clearUid i | clearSem i => exact hTable.trans h

theorem SyncRel.congr {table : List (Slot (Option Nat))} {works : List (Thread × SyncPc)}
    (h : SyncRel cfg s table works) (hTable : s'.syncRspTable = s.syncRspTable)
    (hNext : s.next ≤ s'.next)
    (hCaller : ∀ w ∈ works, ∀ k < s.next, w.1 = .caller k → s'.caller k = s.caller k) :
    SyncRel cfg s' table works := by
  match works with
  | [] => exact Eq.trans h hTable.symm
  | [w] => exact SyncOpen.congr h hTable hNext (hCaller w (List.mem_singleton_self w))
  | _ :: _ :: _ => exact h.elim

theorem stopped_congr (hTable : s'.asyncRspTable = s.asyncRspTable)
    (works : List (Thread × AsyncPc)) : stopped s' works = stopped s works := by
  unfold stopped
  rw [hTable]

/-- A thread that does not use the table leaves the others to what they do there. -/
theorem AsyncRel.stable {table : List (Slot AsyncItem)} {works : List (Thread × AsyncPc)}
    (h : AsyncRel cfg s table works) (hUses : a.usesAsync = false)
    (hThread : ∀ w ∈ works, a.thread ≠ some w.1) (hStep : Core.step cfg s a = some s') :
    AsyncRel cfg s' table works := by
  have hRest := step_untouched hStep
  refine h.congr (async_eq hUses hStep) ?_ fun k hLt =>
    ⟨Nat.lt_of_lt_of_le hLt hRest.next, hRest.uidOf k hLt⟩
  intro w hw hIs k hPc
  have hOther : a.thread ≠ some .tx := hIs ▸ hThread w hw
  rw [hRest.tx hOther (by rintro rfl; cases hUses)]
  exact hPc

theorem SyncRel.stable {table : List (Slot (Option Nat))} {works : List (Thread × SyncPc)}
    (h : SyncRel cfg s table works) (hUses : a.usesSync = false)
    (hThread : ∀ w ∈ works, a.thread ≠ some w.1) (hStep : Core.step cfg s a = some s') :
    SyncRel cfg s' table works := by
  have hRest := step_untouched hStep
  refine h.congr (sync_eq hUses hStep) hRest.next ?_
  intro w hw k hLt hIs
  have hOther : a.thread ≠ some (.caller k) := hIs ▸ hThread w hw
  exact hRest.caller k hLt hOther

/-- No timer is started that was stopped for an entry. -/
theorem handle_unstarted {table : List (Slot AsyncItem)} {works : List (Thread × AsyncPc)}
    (hSound : Sound cfg s) (h : AsyncRel cfg s table works) {k : Nat} (hPc : s.tx = .starting k) :
    stopped s works ≠ some k := by
  -- an entry in use belongs to a request that is registered
  have hEntry {i : Nat} (hUse : InUse s i) :
      (s.asyncRspTable[i]?).bind (·.item.timerHdl) ≠ some k := by
    obtain ⟨e, he, hNe⟩ := hUse
    obtain ⟨j, -, -, rfl⟩ := hSound.tables.asyncUsed i e he hNe
    rw [he]
    rintro ⟨⟩
    have hAsync : (cfg.app k).async = true := hSound.timed k (by rw [hPc]; rfl)
    refine hSound.tables.pending_async ?_ he
    unfold Core.Pending Rpc.Pending
    rw [if_pos hAsync, hPc]
    exact .inr (.inr rfl)
  match works with
  | [] => nofun
  | [(_, pc)] =>
    cases pc with
    | clearTimer i => exact hEntry h.2.2
    | freeReq i => exact hEntry h.2.2
    | _ => nofun
  | _ :: _ :: _ => exact h.elim

/-! ## The uids in the memory -/

/-- The entry that is free in the state and still has its uid in the memory. -/
def clearing : List (Thread × AsyncPc) → Option Nat
  | [(_, .clearUid i)] => some i
  | _ => none

def syncClearing : List (Thread × SyncPc) → Option Nat
  | [(_, .clearUid i)] => some i
  | _ => none

/-- A table as it is now, but for the entry that still has its uid in the memory. -/
def Earlier {α : Type} (now old memory : List (Slot α)) : Option Nat → Prop
  | none => old = now
  | some i => old.map Slot.uid = memory.map Slot.uid ∧ ∃ item, now = old.set i ⟨0, item⟩

/-- With the entries that are being cleared the tables are sound. -/
def Before (cfg : Config) (u : Unlocked) (s : Core) : Prop :=
  ∃ async sync, Sound cfg { s with asyncRspTable := async, syncRspTable := sync } ∧
    Earlier s.asyncRspTable async u.core.asyncRspTable (clearing u.async) ∧
    Earlier s.syncRspTable sync u.core.syncRspTable (syncClearing u.sync)

theorem init_before (cfg : Config) : Before cfg (init cfg) (Core.init cfg) :=
  ⟨_, _, init_sound cfg, rfl, rfl⟩

theorem AsyncRel.uids {table : List (Slot AsyncItem)} {works : List (Thread × AsyncPc)}
    (h : AsyncRel cfg s table works) (hNone : clearing works = none) :
    s.asyncRspTable.map Slot.uid = table.map Slot.uid := by
  match works with
  | [] => exact congrArg (List.map Slot.uid) (Eq.symm h)
  | [(_, pc)] =>
    cases pc with
    | setUid i k | callCb i resp | testUid i | stopTimer i | clearTimer i =>
      exact congrArg (List.map Slot.uid) h.1.symm
    | setCb i k | setTimer i k | setReq i k =>
      rw [h.2.2]
      exact map_uid_setItem
    | freeReq i =>
      rw [h.1]
      exact map_uid_setItem.symm
    | clearUid i => cases hNone
    | clearCb i =>
      rw [show s.asyncRspTable = _ from h]
      exact map_uid_setItem
  | _ :: _ :: _ => exact h.elim

theorem SyncRel.uids {table : List (Slot (Option Nat))} {works : List (Thread × SyncPc)}
    (h : SyncRel cfg s table works) (hNone : syncClearing works = none) :
    s.syncRspTable.map Slot.uid = table.map Slot.uid := by
  match works with
  | [] => exact congrArg (List.map Slot.uid) (Eq.symm h)
  | [(_, pc)] =>
    cases pc with
    | setUid i k | giveSem i resp => exact congrArg (List.map Slot.uid) h.1.symm
    | setSem i k =>
      rw [h.2.2.2]
      exact map_uid_setItem
    | clearUid i => cases hNone
    | clearSem i =>
      rw [show s.syncRspTable = _ from h]
      exact map_uid_setItem
  | _ :: _ :: _ => exact h.elim

theorem Earlier.uids {α : Type} {now old memory : List (Slot α)} {i : Option Nat}
    (h : Earlier now old memory i)
    (hNone : i = none → now.map Slot.uid = memory.map Slot.uid) :
    old.map Slot.uid = memory.map Slot.uid := by
  cases i with
  | none =>
    rw [show old = now from h]
    exact hNone rfl
  | some i => exact h.1

theorem freshUid_congr {m : Core}
    (hAsync : s.asyncRspTable.map Slot.uid = m.asyncRspTable.map Slot.uid)
    (hSync : s.syncRspTable.map Slot.uid = m.syncRspTable.map Slot.uid) (hUid : s.uid = m.uid)
    (hNext : s.next = m.next) (hUidOf : s.uidOf = m.uidOf)
    (hPending : s.Pending cfg = m.Pending cfg) (h : FreshUid cfg m a) : FreshUid cfg s a := by
  cases a with
  | sendReq =>
    obtain ⟨hNotSync, hNotAsync, hNotPending⟩ := h
    have hNew : s.nextUid = m.nextUid := by
      unfold nextUid
      rw [hUid]
    refine ⟨?_, ?_, ?_⟩
    · rw [has_iff_mem, hSync, hNew, ← has_iff_mem]
      exact hNotSync
    · rw [has_iff_mem, hAsync, hNew, ← has_iff_mem]
      exact hNotAsync
    · rw [hNext, hPending, hUidOf, hNew]
      exact hNotPending
  | _ => trivial

/-- What is done with the tables as they were, where they are not used. -/
theorem step_before {async : List (Slot AsyncItem)} {sync : List (Slot (Option Nat))}
    (hAsync : a.usesAsync = true → async = s.asyncRspTable)
    (hSync : a.usesSync = true → sync = s.syncRspTable) (hStep : Core.step cfg s a = some s') :
    Core.step cfg { s with asyncRspTable := async, syncRspTable := sync } a =
      some { s' with
        asyncRspTable := if a.usesAsync then s'.asyncRspTable else async
        syncRspTable := if a.usesSync then s'.syncRspTable else sync } := by
  have hFirst : Core.step cfg { s with asyncRspTable := async } a =
      some { s' with asyncRspTable := if a.usesAsync then s'.asyncRspTable else async } := by
    cases hUses : a.usesAsync with
    | false =>
      rw [step_async hUses, hStep]
      rfl
    | true =>
      obtain rfl := hAsync hUses
      exact hStep
  cases hUses : a.usesSync with
  | false =>
    have hSecond : Core.step cfg { s with asyncRspTable := async, syncRspTable := sync } a =
        (Core.step cfg { s with asyncRspTable := async } a).map ({ · with syncRspTable := sync }) :=
      step_sync (s := { s with asyncRspTable := async }) hUses sync
    rw [hFirst] at hSecond
    exact hSecond
  | true =>
    obtain rfl := hSync hUses
    exact hFirst

/-- A step of `Core` by threads that are not clearing an entry of a table that the step uses. -/
theorem Before.step {u v : Unlocked} (hRel : Rel cfg u s) (h : Before cfg u s)
    (hFresh : FreshUid cfg u.core a) (hStep : Core.step cfg s a = some s')
    (hAsync : if a.usesAsync then clearing u.async = none ∧ clearing v.async = none else
      clearing v.async = clearing u.async ∧ v.core.asyncRspTable = u.core.asyncRspTable)
    (hSync : if a.usesSync then syncClearing u.sync = none ∧ syncClearing v.sync = none else
      syncClearing v.sync = syncClearing u.sync ∧ v.core.syncRspTable = u.core.syncRspTable) :
    Before cfg v s' := by
  obtain ⟨async, sync, hSound, hOldAsync, hOldSync⟩ := h
  obtain ⟨table, table', bad, hCore, hAsyncRel, hSyncRel⟩ := hRel
  have hUsedAsync (hUses : a.usesAsync = true) : async = s.asyncRspTable := by
    rw [if_pos hUses] at hAsync
    rw [hAsync.1] at hOldAsync
    exact hOldAsync
  have hUsedSync (hUses : a.usesSync = true) : sync = s.syncRspTable := by
    rw [if_pos hUses] at hSync
    rw [hSync.1] at hOldSync
    exact hOldSync
  have hNow := step_before hUsedAsync hUsedSync hStep
  have hFresh' : FreshUid cfg { s with asyncRspTable := async, syncRspTable := sync } a := by
    refine freshUid_congr ?_ ?_ ?_ ?_ ?_ ?_ hFresh
    · refine hOldAsync.uids fun hNone => ?_
      rw [hCore]
      exact hAsyncRel.uids hNone
    · refine hOldSync.uids fun hNone => ?_
      rw [hCore]
      exact hSyncRel.uids hNone
    all_goals rw [hCore]; rfl
  refine ⟨_, _, step_sound hSound hFresh' hNow, ?_, ?_⟩
  · cases hUses : a.usesAsync with
    | true =>
      rw [hUses, if_pos rfl] at hAsync
      rw [hAsync.2]
      rfl
    | false =>
      rw [hUses, if_neg Bool.false_ne_true] at hAsync
      rw [hAsync.1, hAsync.2, async_eq hUses hStep]
      exact hOldAsync
  · cases hUses : a.usesSync with
    | true =>
      rw [hUses, if_pos rfl] at hSync
      rw [hSync.2]
      rfl
    | false =>
      rw [hUses, if_neg Bool.false_ne_true] at hSync
      rw [hSync.1, hSync.2, sync_eq hUses hStep]
      exact hOldSync

/-- What follows for the memory itself. -/
theorem Before.distinct {u : Unlocked} (hRel : Rel cfg u s) (h : Before cfg u s) :
    Distinct u.core.syncRspTable ∧ Distinct u.core.asyncRspTable ∧
      Apart u.core.syncRspTable u.core.asyncRspTable := by
  obtain ⟨async, sync, hSound, hOldAsync, hOldSync⟩ := h
  obtain ⟨table, table', bad, hCore, hAsyncRel, hSyncRel⟩ := hRel
  have hAsync : async.map Slot.uid = u.core.asyncRspTable.map Slot.uid := by
    refine hOldAsync.uids fun hNone => ?_
    rw [hCore]
    exact hAsyncRel.uids hNone
  have hSync : sync.map Slot.uid = u.core.syncRspTable.map Slot.uid := by
    refine hOldSync.uids fun hNone => ?_
    rw [hCore]
    exact hSyncRel.uids hNone
  exact ⟨hSound.tables.syncDistinct.congr hSync, hSound.tables.asyncDistinct.congr hAsync,
    hSound.tables.apart.congr hSync hAsync⟩

/-! ## One step -/

/-- A thread that registers the request has still to use it. -/
def Registers (s : Core) (k : Nat) : Prop :=
  s.caller k = .registering ∨ s.caller k = .queueing ∨ s.tx = .registering k

/-- The step of `Core`, or none. -/
def Done (cfg : Config) (s s' : Core) : Option Action → Prop
  | none => s' = s
  | some b => Core.step cfg s b = some s'

/-- The step from `u` to `v` does what the step of `Core` does, if there is one. -/
def Simulated (cfg : Config) (u v : Unlocked) (s : Core) (done : Option Action) : Prop :=
  ∃ s', Rel cfg v s' ∧ Done cfg s s' done ∧
    ((∀ k, Registers s k → s.freed k = 0) → u.core.badAccess = s.badAccess →
      v.core.badAccess = s'.badAccess) ∧
    (Before cfg u s → (∀ b ∈ done, FreshUid cfg u.core b) → Before cfg v s')

/-- A thread takes a step of `Core` as a whole. -/
theorem whole_simulated {core : Core} (hSound : Sound cfg s) (hRel : Rel cfg u s)
    (hAlone : u.Alone (.act a)) (hBusy : ¬ a.thread.any u.busy)
    (hStep : Core.step cfg u.core a = some core) :
    Simulated cfg u ⟨core, (u.drop a).async, (u.drop a).sync⟩ s (some a) := by
  have hRel' := hRel
  obtain ⟨async, sync, bad, hCore, hAsync, hSync⟩ := hRel
  have hAsyncThread : ∀ w ∈ u.async, a.thread ≠ some w.1 := by
    intro w hw hThread
    have hNot : ¬ u.busy w.1 = true := by simpa [hThread] using hBusy
    refine hNot ?_
    unfold busy
    rw [Bool.or_eq_true, List.any_eq_true]
    exact .inl ⟨w, hw, by simp⟩
  have hSyncThread : ∀ w ∈ u.sync, a.thread ≠ some w.1 := by
    intro w hw hThread
    have hNot : ¬ u.busy w.1 = true := by simpa [hThread] using hBusy
    refine hNot ?_
    unfold busy
    rw [Bool.or_eq_true, List.any_eq_true, List.any_eq_true]
    exact .inr ⟨w, hw, by simp⟩
  have hDropAsync : (u.drop a).async = u.async := by
    cases a with
    | cancelThreads => simp [drop, hAlone.1 rfl]
    | _ => rfl
  have hDropSync : (u.drop a).sync = u.sync := by
    cases a with
    | cancelThreads => simp [drop, hAlone.2 rfl]
    | _ => rfl
  rw [hCore] at hStep
  obtain ⟨s', hStep', hSame, hMemory⟩ := step_shadow (a := a) (by
    intro hUses
    rw [hAlone.1 hUses] at hAsync ⊢
    exact ⟨hAsync, rfl⟩) (by
    intro hUses
    rw [hAlone.2 hUses] at hSync
    exact hSync) (fun k hPc => handle_unstarted hSound hAsync hPc) hStep
  have hStopped : stopped s u.async = stopped s' (u.drop a).async := by
    rw [hDropAsync]
    cases hUses : a.usesAsync with
    | true =>
      rw [hAlone.1 hUses]
      rfl
    | false => exact (stopped_congr (async_eq hUses hStep') u.async).symm
  have hAsync' : AsyncRel cfg s' (if a.usesAsync then s'.asyncRspTable else async)
      (u.drop a).async := by
    rw [hDropAsync]
    cases hUses : a.usesAsync with
    | true =>
      rw [hAlone.1 hUses]
      rfl
    | false => exact hAsync.stable hUses hAsyncThread hStep'
  have hSync' : SyncRel cfg s' (if a.usesSync then s'.syncRspTable else sync)
      (u.drop a).sync := by
    rw [hDropSync]
    cases hUses : a.usesSync with
    | true =>
      rw [hAlone.2 hUses]
      rfl
    | false => exact hSync.stable hUses hSyncThread hStep'
  rw [hStopped] at hMemory
  refine ⟨s', ⟨_, _, _, hMemory, hAsync', hSync'⟩, hStep', ?_, ?_⟩
  · intro _ hBad
    refine hSame ?_
    rw [hCore] at hBad
    exact hBad
  · intro hBefore hFresh
    refine hBefore.step hRel' (hFresh a rfl) hStep' ?_ ?_
    · split
      · rename_i hUses
        rw [hDropAsync, hAlone.1 hUses]
        exact ⟨rfl, rfl⟩
      · rename_i hUses
        rw [hDropAsync, hMemory, if_neg hUses, hCore]
        exact ⟨rfl, rfl⟩
    · split
      · rename_i hUses
        rw [hDropSync, hAlone.2 hUses]
        exact ⟨rfl, rfl⟩
      · rename_i hUses
        rw [hDropSync, hMemory, if_neg hUses, hCore]
        exact ⟨rfl, rfl⟩

/-- A write to `async_rsp_table` that belongs to a step which is done already, or is still to
come. -/
theorem write_simulated {core : Core} {t : Thread} {pc : AsyncPc} {sync : List (Thread × SyncPc)}
    (hRel : Rel cfg ⟨core, [(t, pc)], sync⟩ s) (works : List (Thread × AsyncPc))
    (table : List (Slot AsyncItem)) (hBefore : clearing [(t, pc)] = none)
    (hWorks : clearing works = none) (hStopped : stopped s works = stopped s [(t, pc)])
    (hAsync : AsyncRel cfg s core.asyncRspTable [(t, pc)] → AsyncRel cfg s table works) :
    Simulated cfg ⟨core, [(t, pc)], sync⟩ ⟨{ core with asyncRspTable := table }, works, sync⟩ s
      none := by
  obtain ⟨async, sync', bad, hEq, hOld, hSync⟩ := hRel
  dsimp only at hEq
  subst hEq
  refine ⟨s, ⟨table, sync', bad, ?_, hAsync hOld, hSync⟩, rfl, fun _ hSame => hSame, ?_⟩
  · dsimp only
    rw [hStopped]
    rfl
  · rintro ⟨old, old', hSound, hEarlier, hEarlier'⟩ -
    refine ⟨old, old', hSound, ?_, hEarlier'⟩
    rw [hBefore] at hEarlier
    rw [hWorks]
    exact hEarlier

/-- A step of `Core` that is done with an access to `async_rsp_table`. -/
theorem commit_simulated {core core' : Core} {t : Thread} {pc : AsyncPc}
    {sync : List (Thread × SyncPc)} {works : List (Thread × AsyncPc)}
    (hRel : Rel cfg ⟨core, [(t, pc)], sync⟩ s) (hUses : a.usesAsync = true)
    (hUses' : a.usesSync = false) (hBefore : clearing [(t, pc)] = none)
    (hWorks : clearing works = none) (hStep : Core.step cfg s a = some s')
    (hRel' : Rel cfg ⟨core', works, sync⟩ s') (hSync : core'.syncRspTable = core.syncRspTable)
    (hBad : core.badAccess = s.badAccess → core'.badAccess = s'.badAccess) :
    Simulated cfg ⟨core, [(t, pc)], sync⟩ ⟨core', works, sync⟩ s (some a) := by
  refine ⟨s', hRel', hStep, fun _ => hBad, fun h hFresh => ?_⟩
  refine h.step hRel (hFresh a rfl) hStep ?_ ?_
  · rw [if_pos hUses]
    exact ⟨hBefore, hWorks⟩
  · rw [if_neg (by rw [hUses']; exact Bool.false_ne_true)]
    exact ⟨rfl, hSync⟩

theorem go_setUid {core : Core} {t : Thread} {i k : Nat} {sync : List (Thread × SyncPc)}
    {r : Core × Option AsyncPc} (hRel : Rel cfg ⟨core, [(t, .setUid i k)], sync⟩ s)
    (hFault : core.fault = false) (hExec : asyncExec t core (.setUid i k) = some r) :
    Simulated cfg ⟨core, [(t, .setUid i k)], sync⟩ ⟨r.1, r.2.toList.map (t, ·), sync⟩ s
      (some .setAsyncRespCallback) := by
  have hRel' := hRel
  obtain ⟨async, sync', bad, hEq, ⟨hTable, hThread, hFree, hRange⟩, hSync⟩ := hRel'
  dsimp only at hEq hTable
  subst hEq hTable hThread
  unfold asyncExec at hExec
  dsimp only at hExec
  split at hExec
  · rename_i hPc
    cases hExec
    have hPc' : s.tx = .registering k := hPc
    have hStep : Core.step cfg s .setAsyncRespCallback = some { s.touch k with
        tx := .sending k
        asyncRspTable := s.asyncRspTable.set i ⟨s.uidOf k, some k, some k, some k⟩ } := by
      unfold Core.step
      rw [if_neg (by rw [show s.fault = false from hFault]; exact Bool.false_ne_true)]
      simp only [setAsyncRespCallback, hPc', hFree]
      exact if_neg (by omega)
    refine commit_simulated hRel rfl rfl rfl rfl hStep ?_ rfl ?_
    · refine ⟨_, _, _, rfl, ⟨rfl, rfl, ?_⟩, ?_⟩
      · exact setItem_setUid_const.symm
      · exact hSync.congr rfl (Nat.le_refl _) fun _ _ _ _ _ => rfl
    · intro hBad
      have hSame : bad = s.badAccess := hBad
      subst hSame
      rfl
  · cases hExec

theorem go_callCb {core : Core} {t : Thread} {i : Nat} {resp : Resp} {sync : List (Thread × SyncPc)}
    {r : Core × Option AsyncPc} (hRel : Rel cfg ⟨core, [(t, .callCb i resp)], sync⟩ s)
    (hFault : core.fault = false) (hExec : asyncExec t core (.callCb i resp) = some r) :
    Simulated cfg ⟨core, [(t, .callCb i resp)], sync⟩ ⟨r.1, r.2.toList.map (t, ·), sync⟩ s
      (some .callAsync) := by
  have hRel' := hRel
  obtain ⟨async, sync', bad, hEq, ⟨hTable, hFind⟩, hSync⟩ := hRel'
  dsimp only at hEq hTable
  subst hEq hTable
  have hRunning : s.fault ≠ true := by
    rw [show s.fault = false from hFault]
    exact Bool.false_ne_true
  simp only [asyncExec] at hExec
  split at hExec
  · rename_i hPc
    have hPc' : s.rx = .calling resp := hPc
    split at hExec
    · rename_i hItem
      have hItem' : (s.asyncRspTable[i]?).bind (·.item.cb) = none := hItem
      have hStep : Core.step cfg s .callAsync = some { s with fault := true } := by
        simp only [Core.step, if_neg hRunning, callAsync, hPc', hFind, hItem']
      cases hExec
      refine commit_simulated hRel rfl rfl rfl rfl hStep ?_ rfl fun hBad => hBad
      exact ⟨_, _, _, rfl, rfl, hSync.congr rfl (Nat.le_refl _) fun _ _ _ _ _ => rfl⟩
    · rename_i k hItem
      have hItem' : (s.asyncRspTable[i]?).bind (·.item.cb) = some k := hItem
      have hStep : Core.step cfg s .callAsync = some { s with
          rx := .clearing i, cbCalls := Function.update s.cbCalls k (s.cbCalls k + 1) } := by
        simp only [Core.step, if_neg hRunning, callAsync, hPc', hFind, hItem']
      cases hExec
      refine commit_simulated hRel rfl rfl rfl rfl hStep ?_ rfl fun hBad => hBad
      exact ⟨_, _, _, rfl, rfl, hSync.congr rfl (Nat.le_refl _) fun _ _ _ _ _ => rfl⟩
  · cases hExec

theorem leaveClear_cases {m : Core} {t : Thread} {i : Nat} (h : leaveClear t i s = some m) :
    (t = .rx ∧ s.rx = .clearing i ∧ m = { s with rx := .idle }) ∨
      ∃ k, t = .timer k ∧ s.timer k = .clearing ∧
        m = { s with timer := Function.update s.timer k .calling } := by
  unfold leaveClear at h
  cases t with
  | rx =>
    simp only [Option.ite_none_right_eq_some] at h
    exact .inl ⟨rfl, h.1, (Option.some.inj h.2).symm⟩
  | timer k =>
    simp only [Option.ite_none_right_eq_some] at h
    exact .inr ⟨k, rfl, h.1, (Option.some.inj h.2).symm⟩
  | _ => cases h

/-- The step of `Core` that clears the entry as a whole. -/
theorem clear_step {m : Core} {t : Thread} {i : Nat} (hFault : s.fault ≠ true)
    (hClears : Clears s i t) (hLeave : leaveClear t i (s.clearAsyncRespCallback i) = some m) :
    ∃ b, clearAction t = some b ∧ b.usesAsync = true ∧ b.usesSync = false ∧
      Core.step cfg s b = some m := by
  rcases leaveClear_cases hLeave with ⟨rfl, hRx, rfl⟩ | ⟨k, rfl, hTimer, rfl⟩
  · rw [clearAsync_rx] at hRx
    refine ⟨.rxClearAsync, rfl, rfl, rfl, ?_⟩
    simp only [Core.step, if_neg hFault, rxClearAsync, hRx]
  · have hPc : s.timer k = .clearing := by
      rcases clearAsync_cases i s with hEq | ⟨e, -, -, hEq⟩
      · rwa [hEq] at hTimer
      · rw [hEq] at hTimer
        have hRuns : stopTimer s.timer e.item.timerHdl k ≠ .over := by
          rw [show stopTimer s.timer e.item.timerHdl k = .clearing from hTimer]
          exact TimerPc.noConfusion
        exact (stopTimer_eq hRuns).symm.trans hTimer
    refine ⟨.timerClear k, rfl, rfl, rfl, ?_⟩
    simp only [Core.step, if_neg hFault, timerClear, if_pos hPc, hClears.2]

theorem clear_unused {i : Nat} (h : ¬ (s.asyncRspTable[i]?).any (·.uid ≠ 0)) :
    s.clearAsyncRespCallback i = s := by
  rcases clearAsync_cases i s with hEq | ⟨e, he, hNe, -⟩
  · exact hEq
  · rw [he] at h
    exact absurd (by simpa using hNe) h

theorem go_testUid {core : Core} {t : Thread} {i : Nat} {sync : List (Thread × SyncPc)}
    {r : Core × Option AsyncPc} (hRel : Rel cfg ⟨core, [(t, .testUid i)], sync⟩ s)
    (hFault : core.fault = false) (hExec : asyncExec t core (.testUid i) = some r) :
    Simulated cfg ⟨core, [(t, .testUid i)], sync⟩ ⟨r.1, r.2.toList.map (t, ·), sync⟩ s
      (asyncCommits t core (.testUid i)) := by
  have hRel' := hRel
  obtain ⟨async, sync', bad, hEq, ⟨hTable, hClears⟩, hSync⟩ := hRel'
  dsimp only at hEq hTable
  subst hEq hTable
  have hRunning : s.fault ≠ true := by
    rw [show s.fault = false from hFault]
    exact Bool.false_ne_true
  simp only [asyncExec] at hExec
  split at hExec
  · rename_i hUse
    have hUse' : InUse s i := by
      obtain ⟨e, he, hNe⟩ := (Option.any_eq_true ..).mp hUse
      exact ⟨e, he, by simpa using hNe⟩
    cases hExec
    rw [show asyncCommits t _ (.testUid i) = none from if_pos hUse]
    exact write_simulated hRel [(t, .stopTimer i)] s.asyncRspTable rfl rfl rfl
      fun _ => ⟨rfl, hClears, hUse'⟩
  · rename_i hUse
    have hUnused : s.clearAsyncRespCallback i = s := clear_unused hUse
    obtain ⟨m, hLeave, rfl⟩ := Option.map_eq_some_iff.mp hExec
    rw [show asyncCommits t _ (.testUid i) = clearAction t from if_neg hUse]
    rcases leaveClear_cases hLeave with ⟨rfl, hRx, rfl⟩ | ⟨k, rfl, hTimer, rfl⟩
    · have hLeave' : leaveClear .rx i (s.clearAsyncRespCallback i) =
          some { s with rx := .idle } := by
        rw [hUnused]
        exact if_pos hRx
      obtain ⟨b, hAction, hUses, hUses', hStep⟩ := clear_step hRunning hClears hLeave'
      rw [hAction]
      refine commit_simulated hRel hUses hUses' rfl rfl hStep ?_ rfl fun hBad => hBad
      exact ⟨_, _, _, rfl, rfl, hSync.congr rfl (Nat.le_refl _) fun _ _ _ _ _ => rfl⟩
    · have hLeave' : leaveClear (.timer k) i (s.clearAsyncRespCallback i) =
          some { s with timer := Function.update s.timer k .calling } := by
        rw [hUnused]
        exact if_pos hTimer
      obtain ⟨b, hAction, hUses, hUses', hStep⟩ := clear_step hRunning hClears hLeave'
      rw [hAction]
      refine commit_simulated hRel hUses hUses' rfl rfl hStep ?_ rfl fun hBad => hBad
      exact ⟨_, _, _, rfl, rfl, hSync.congr rfl (Nat.le_refl _) fun _ _ _ _ _ => rfl⟩

theorem go_freeReq {core : Core} {t : Thread} {i : Nat} {sync : List (Thread × SyncPc)}
    {r : Core × Option AsyncPc} (hRel : Rel cfg ⟨core, [(t, .freeReq i)], sync⟩ s)
    (hFault : core.fault = false) (hExec : asyncExec t core (.freeReq i) = some r) :
    Simulated cfg ⟨core, [(t, .freeReq i)], sync⟩ ⟨r.1, r.2.toList.map (t, ·), sync⟩ s
      (clearAction t) := by
  obtain ⟨async, sync', bad, hEq, ⟨hTable, hClears, e, he, hNe⟩, hSync⟩ := hRel
  dsimp only at hEq hTable
  subst hEq hTable
  have hRunning : s.fault ≠ true := by
    rw [show s.fault = false from hFault]
    exact Bool.false_ne_true
  have hCleared : s.clearAsyncRespCallback i = { s with
      timer := stopTimer s.timer e.item.timerHdl
      freed := freePtr s.freed e.item.appReq
      asyncRspTable := s.asyncRspTable.set i ⟨0, none, none, e.item.appReq⟩ } := by
    unfold clearAsyncRespCallback
    rw [he]
    exact if_neg hNe
  have hStopped : stopped s [(t, .freeReq i)] = e.item.timerHdl := by
    simp only [stopped, he, Option.bind_some]
  have hItem : ((setItem s.asyncRspTable i ({ · with timerHdl := none }))[i]?).bind
      (·.item.appReq) = e.item.appReq := by
    rw [getElem?_setItem he]
    rfl
  have hTable : s.asyncRspTable.set i ⟨0, none, none, e.item.appReq⟩ =
      setItem (setUid (setItem s.asyncRspTable i ({ · with timerHdl := none })) i 0) i
        ({ · with cb := none }) := by
    rw [setItem_setUid (getElem?_setItem he), setItem_eq_set he, List.set_set]
  have hDone (rx : RxPc) (timer : Nat → TimerPc) {b : Action} {m : Core}
      (hStep : Core.step cfg s b = some { s with
        rx, timer, freed := freePtr s.freed e.item.appReq
        asyncRspTable := s.asyncRspTable.set i ⟨0, none, none, e.item.appReq⟩ })
      (hm : m = { s.shadow (setItem s.asyncRspTable i ({ · with timerHdl := none })) sync' none
        bad with rx, timer, freed := freePtr s.freed e.item.appReq }) :
      Simulated cfg ⟨s.shadow (setItem s.asyncRspTable i ({ · with timerHdl := none })) sync'
        (stopped s [(t, .freeReq i)]) bad, [(t, .freeReq i)], sync⟩
        ⟨m, [(t, .clearUid i)], sync⟩ s (some b) := by
    subst hm
    refine ⟨{ s with
      rx, timer, freed := freePtr s.freed e.item.appReq
      asyncRspTable := s.asyncRspTable.set i ⟨0, none, none, e.item.appReq⟩ },
      ⟨_, _, bad, rfl, hTable, hSync.congr rfl (Nat.le_refl _) fun _ _ _ _ _ => rfl⟩,
      hStep, fun _ hBad => hBad, ?_⟩
    rintro ⟨old, old', hOld, hEarlier, hEarlier'⟩ -
    refine ⟨s.asyncRspTable, old', ?_, ⟨?_, _, rfl⟩, hEarlier'⟩
    · rw [show old = s.asyncRspTable from hEarlier] at hOld
      exact ⟨hOld.queued, hOld.tables, hOld.kind, hOld.timed⟩
    · dsimp only [shadow]
      rw [map_uid_setItem]
  simp only [asyncExec] at hExec
  obtain ⟨m, hLeave, rfl⟩ := Option.map_eq_some_iff.mp hExec
  rw [hStopped] at hLeave
  rcases leaveClear_cases hLeave with ⟨rfl, hRx, rfl⟩ | ⟨k, rfl, hTimer, rfl⟩
  · have hLeave' : leaveClear .rx i (s.clearAsyncRespCallback i) =
        some { s.clearAsyncRespCallback i with rx := .idle } := by
      refine if_pos ?_
      rw [clearAsync_rx]
      exact hRx
    obtain ⟨b, hAction, -, -, hStep⟩ := clear_step hRunning hClears hLeave'
    rw [hAction]
    refine hDone .idle (stopTimer s.timer e.item.timerHdl) ?_ ?_
    · rw [hStep, hCleared]
    · simp only [hItem, shadow]
  · have hLeave' : leaveClear (.timer k) i (s.clearAsyncRespCallback i) =
        some { s.clearAsyncRespCallback i with
          timer := Function.update (s.clearAsyncRespCallback i).timer k .calling } := by
      refine if_pos ?_
      rw [hCleared]
      exact hTimer
    obtain ⟨b, hAction, -, -, hStep⟩ := clear_step hRunning hClears hLeave'
    rw [hAction]
    refine hDone s.rx (Function.update (stopTimer s.timer e.item.timerHdl) k .calling) ?_ ?_
    · rw [hStep, hCleared]
    · simp only [hItem, shadow]

theorem go_stopTimer {core : Core} {t : Thread} {i : Nat} {sync : List (Thread × SyncPc)}
    (hRel : Rel cfg ⟨core, [(t, .stopTimer i)], sync⟩ s) :
    Simulated cfg ⟨core, [(t, .stopTimer i)], sync⟩
      ⟨{ core with
        timer := stopTimer core.timer ((core.asyncRspTable[i]?).bind (·.item.timerHdl)) },
        [(t, .clearTimer i)], sync⟩ s none := by
  obtain ⟨async, sync', bad, hEq, ⟨hTable, hClears, hUse⟩, hSync⟩ := hRel
  dsimp only at hEq hTable
  subst hEq hTable
  exact ⟨s, ⟨_, _, bad, rfl, ⟨rfl, hClears, hUse⟩, hSync⟩, rfl, fun _ hBad => hBad, fun h _ => h⟩

/-- The uid of an entry that is cleared goes. -/
theorem go_clearUid {core : Core} {t : Thread} {i : Nat} {sync : List (Thread × SyncPc)}
    (hRel : Rel cfg ⟨core, [(t, .clearUid i)], sync⟩ s) :
    Simulated cfg ⟨core, [(t, .clearUid i)], sync⟩
      ⟨{ core with asyncRspTable := setUid core.asyncRspTable i 0 }, [(t, .clearCb i)], sync⟩ s
      none := by
  obtain ⟨async, sync', bad, hEq, hTable, hSync⟩ := hRel
  dsimp only at hEq
  subst hEq
  refine ⟨s, ⟨_, _, bad, rfl, hTable, hSync⟩, rfl, fun _ hBad => hBad, ?_⟩
  rintro ⟨old, old', hSound, ⟨-, item, hNow⟩, hEarlier'⟩ -
  refine ⟨s.asyncRspTable, old', ?_, rfl, hEarlier'⟩
  have hErased := hSound.tables.eraseAsync i item
  rw [← hNow] at hErased
  exact ⟨hSound.queued, hErased, hSound.kind, hSound.timed⟩

/-- An access to `async_rsp_table`. -/
theorem go_async {core : Core} {t : Thread} {pc : AsyncPc} {sync : List (Thread × SyncPc)}
    {r : Core × Option AsyncPc} (hRel : Rel cfg ⟨core, [(t, pc)], sync⟩ s)
    (hFault : core.fault = false) (hExec : asyncExec t core pc = some r) :
    Simulated cfg ⟨core, [(t, pc)], sync⟩ ⟨r.1, r.2.toList.map (t, ·), sync⟩ s
      (asyncCommits t core pc) := by
  cases pc with
  | setUid i k => exact go_setUid hRel hFault hExec
  | setCb i k =>
    cases hExec
    refine write_simulated hRel [(t, .setTimer i k)]
      (setItem core.asyncRspTable i ({ · with cb := some k })) rfl rfl rfl
      fun ⟨hThread, hPc, hTable⟩ => ⟨hThread, hPc, ?_⟩
    rw [hTable, setItem_setItem]
    rfl
  | setTimer i k =>
    cases hExec
    refine write_simulated hRel [(t, .setReq i k)]
      (setItem core.asyncRspTable i ({ · with timerHdl := some k })) rfl rfl rfl
      fun ⟨hThread, hPc, hTable⟩ => ⟨hThread, hPc, ?_⟩
    rw [hTable, setItem_setItem]
    rfl
  | setReq i k =>
    cases hExec
    exact write_simulated hRel [] _ rfl rfl rfl fun ⟨_, _, hTable⟩ => hTable.symm
  | callCb i resp => exact go_callCb hRel hFault hExec
  | testUid i => exact go_testUid hRel hFault hExec
  | stopTimer i =>
    cases hExec
    exact go_stopTimer hRel
  | clearTimer i =>
    cases hExec
    refine write_simulated hRel [(t, .freeReq i)]
      (setItem core.asyncRspTable i ({ · with timerHdl := none })) rfl rfl rfl
      fun ⟨hTable, hClears, hUse⟩ => ⟨?_, hClears, hUse⟩
    rw [hTable]
  | freeReq i => exact go_freeReq hRel hFault hExec
  | clearUid i =>
    cases hExec
    exact go_clearUid hRel
  | clearCb i =>
    cases hExec
    exact write_simulated hRel [] _ rfl rfl rfl fun hTable => Eq.symm hTable

/-! ## Accesses to `sync_rsp_table` -/

/-- A step of `Core` that is done with an access to `sync_rsp_table`. -/
theorem commit_sync_simulated {core core' : Core} {t : Thread} {pc : SyncPc}
    {async : List (Thread × AsyncPc)} {works : List (Thread × SyncPc)}
    (hRel : Rel cfg ⟨core, async, [(t, pc)]⟩ s) (hUses : a.usesAsync = false)
    (hUses' : a.usesSync = true) (hBefore : syncClearing [(t, pc)] = none)
    (hWorks : syncClearing works = none) (hStep : Core.step cfg s a = some s')
    (hRel' : Rel cfg ⟨core', async, works⟩ s') (hAsync : core'.asyncRspTable = core.asyncRspTable)
    (hBad : core.badAccess = s.badAccess → core'.badAccess = s'.badAccess) :
    Simulated cfg ⟨core, async, [(t, pc)]⟩ ⟨core', async, works⟩ s (some a) := by
  refine ⟨s', hRel', hStep, fun _ => hBad, fun h hFresh => ?_⟩
  refine h.step hRel (hFresh a rfl) hStep ?_ ?_
  · rw [if_neg (by rw [hUses]; exact Bool.false_ne_true)]
    exact ⟨rfl, hAsync⟩
  · rw [if_pos hUses']
    exact ⟨hBefore, hWorks⟩

/-- The first write to a new entry. -/
theorem go_setSyncUid {core : Core} {t : Thread} {i k : Nat} {async : List (Thread × AsyncPc)}
    {r : Core × Option SyncPc} (hSound : Sound cfg s)
    (hRel : Rel cfg ⟨core, async, [(t, .setUid i k)]⟩ s) (hFault : core.fault = false)
    (hExec : syncExec t core (.setUid i k) = some r) :
    Simulated cfg ⟨core, async, [(t, .setUid i k)]⟩ ⟨r.1, async, r.2.toList.map (t, ·)⟩ s
      (some (.setSyncRespSem k true)) := by
  have hRel' := hRel
  obtain ⟨async', sync, bad, hEq, hAsync, hTable, hThread, hFree, hRange⟩ := hRel'
  dsimp only at hEq hTable
  subst hEq hTable
  have hRunning : s.fault ≠ true := by
    rw [show s.fault = false from hFault]
    exact Bool.false_ne_true
  simp only [syncExec] at hExec
  split at hExec
  · rename_i hPc
    cases hExec
    have hPc' : s.caller k = .registering := hPc
    have hLt : k < s.next := hSound.queued.lt_next (by rw [hPc']; nofun)
    have hStep : Core.step cfg s (.setSyncRespSem k true) =
        some { (s.touch k).setCaller k .queueing with
          sem := Function.update s.sem k (.live false)
          syncRspTable := s.syncRspTable.set i ⟨s.uidOf k, some k⟩ } := by
      have hNot : ¬ (rpcIdRespMax ≤ (cfg.app k).expRespMsgId ∨ true = false) := by
        simp only [Bool.true_eq_false, or_false]
        omega
      simp only [Core.step, if_neg hRunning, setSyncRespSem, if_pos hPc', if_neg hNot, hFree]
    refine commit_sync_simulated hRel rfl rfl rfl rfl hStep ?_ rfl ?_
    · refine ⟨async', setUid s.syncRspTable i (s.uidOf k), bad || decide (0 < s.freed k), rfl, ?_,
        hThread, hLt, Function.update_self .., setItem_setUid_const.symm⟩
      exact hAsync.congr rfl (fun _ _ _ _ hTx => hTx) fun _ hOld => ⟨hOld, rfl⟩
    · intro hBad
      have hSame : bad = s.badAccess := hBad
      subst hSame
      rfl
  · cases hExec

/-- The other one. -/
theorem go_setSem {core : Core} {t : Thread} {i k : Nat} {async : List (Thread × AsyncPc)}
    (hRel : Rel cfg ⟨core, async, [(t, .setSem i k)]⟩ s) :
    Simulated cfg ⟨core, async, [(t, .setSem i k)]⟩
      ⟨{ core.touch k with syncRspTable := setItem core.syncRspTable i fun _ => some k }, async,
        []⟩ s none := by
  obtain ⟨async', sync, bad, hEq, hAsync, hThread, hLt, hPc, hTable⟩ := hRel
  dsimp only at hEq
  subst hEq
  refine ⟨s, ⟨_, _, _, rfl, hAsync, hTable.symm⟩, rfl, ?_, fun h _ => h⟩
  intro hUsed hBad
  have hFreed : s.freed k = 0 := hUsed k (.inr (.inl hPc))
  simp only [Core.touch, shadow, hFreed]
  rw [show bad = s.badAccess from hBad]
  simp

theorem giveSem_eq {resp : Resp} {i : Nat} (hFind : find s.syncRspTable resp.uid = some i)
    (hRange : resp.InRange) : s.postSyncRespSem resp = s.giveSem i := by
  unfold postSyncRespSem giveSem
  rw [hFind]
  exact if_pos hRange

/-- What is given depends on the table and the semaphores alone. -/
theorem giveSem_frame (i : Nat) (s : Core) : ∃ sem woken fault, ∀ m : Core,
    m.syncRspTable = s.syncRspTable → m.sem = s.sem → m.woken = s.woken → m.fault = s.fault →
      m.giveSem i = { m with sem, woken, fault } := by
  unfold giveSem
  cases hItem : (s.syncRspTable[i]?).bind (·.item) with
  | none =>
    refine ⟨s.sem, s.woken, true, fun m hTable hSem hWoken _ => ?_⟩
    rw [hTable, hItem, ← hSem, ← hWoken]
  | some k =>
    cases hGiven : s.sem k with
    | live given =>
      refine ⟨Function.update s.sem k (.live true), if given then s.woken else s.woken ++ [k],
        s.fault, fun m hTable hSem hWoken hFault => ?_⟩
      rw [hTable, hItem, ← hSem, ← hWoken, ← hFault]
      dsimp only
      rw [hSem, hGiven]
    | absent | deleted =>
      refine ⟨s.sem, s.woken, true, fun m hTable hSem hWoken _ => ?_⟩
      rw [hTable, hItem]
      dsimp only
      rw [hSem, hGiven, ← hSem, ← hWoken]

theorem leavePost_cases {m : Core} {t : Thread} {resp : Resp} (h : leavePost t resp s = some m) :
    (t = .rx ∧ s.rx = .posting resp ∧ m = { s with rx := .idle }) ∨
      ∃ k, t = .tx ∧ s.tx = .posting k resp ∧ m = { s with tx := .failCleaning k } := by
  unfold leavePost at h
  cases t with
  | rx =>
    simp only [Option.ite_none_right_eq_some] at h
    exact .inl ⟨rfl, h.1, (Option.some.inj h.2).symm⟩
  | tx =>
    dsimp only at h
    split at h
    · rename_i k resp' hTx
      simp only [Option.ite_none_right_eq_some] at h
      obtain ⟨rfl, hEq⟩ := h
      exact .inr ⟨k, rfl, hTx, (Option.some.inj hEq).symm⟩
    · cases h
  | _ => cases h

theorem go_giveSem {core : Core} {t : Thread} {i : Nat} {resp : Resp}
    {async : List (Thread × AsyncPc)} {r : Core × Option SyncPc}
    (hRel : Rel cfg ⟨core, async, [(t, .giveSem i resp)]⟩ s) (hFault : core.fault = false)
    (hExec : syncExec t core (.giveSem i resp) = some r) :
    Simulated cfg ⟨core, async, [(t, .giveSem i resp)]⟩ ⟨r.1, async, r.2.toList.map (t, ·)⟩ s
      (postAction t) := by
  have hRel' := hRel
  obtain ⟨async', sync, bad, hEq, hAsync, hTable, hFind, hRange⟩ := hRel'
  dsimp only at hEq hTable
  subst hEq hTable
  have hRunning : s.fault ≠ true := by
    rw [show s.fault = false from hFault]
    exact Bool.false_ne_true
  obtain ⟨sem, woken, fault, hGive⟩ := giveSem_frame i s
  have hPost : s.postSyncRespSem resp = { s with sem, woken, fault } :=
    (giveSem_eq hFind hRange).trans (hGive s rfl rfl rfl rfl)
  simp only [syncExec] at hExec
  obtain ⟨m, hLeave, rfl⟩ := Option.map_eq_some_iff.mp hExec
  rcases leavePost_cases hLeave with ⟨rfl, hRx, rfl⟩ | ⟨k, rfl, hTx, rfl⟩
  · have hRx' : s.rx = .posting resp := hRx
    have hStep : Core.step cfg s .rxPostSync = some { s with sem, woken, fault, rx := .idle } := by
      simp only [Core.step, if_neg hRunning, rxPostSync, hRx', hPost]
    have hGiven := hGive { s.shadow async' s.syncRspTable (stopped s async) bad with rx := .idle }
      rfl rfl rfl rfl
    rw [hGiven]
    refine commit_sync_simulated hRel rfl rfl rfl rfl hStep ?_ rfl fun hBad => hBad
    refine ⟨async', s.syncRspTable, bad, rfl, ?_, rfl⟩
    exact hAsync.congr rfl (fun _ _ _ _ hTx => hTx) fun _ hOld => ⟨hOld, rfl⟩
  · have hTx' : s.tx = .posting k resp := hTx
    have hStep : Core.step cfg s .txPostSync =
        some { s with sem, woken, fault, tx := .failCleaning k } := by
      simp only [Core.step, if_neg hRunning, txPostSync, hTx', hPost]
    have hGiven := hGive { s.shadow async' s.syncRspTable (stopped s async) bad with
      tx := .failCleaning k } rfl rfl rfl rfl
    rw [hGiven]
    refine commit_sync_simulated hRel rfl rfl rfl rfl hStep ?_ rfl fun hBad => hBad
    refine ⟨async', s.syncRspTable, bad, rfl, ?_, rfl⟩
    refine hAsync.congr rfl ?_ fun _ hOld => ⟨hOld, rfl⟩
    intro _ _ _ j hSending
    rw [hTx'] at hSending
    cases hSending

theorem go_clearSyncUid {core : Core} {t : Thread} {i : Nat} {async : List (Thread × AsyncPc)}
    (hRel : Rel cfg ⟨core, async, [(t, .clearUid i)]⟩ s) :
    Simulated cfg ⟨core, async, [(t, .clearUid i)]⟩
      ⟨{ core with syncRspTable := setUid core.syncRspTable i 0 }, async, [(t, .clearSem i)]⟩ s
      none := by
  obtain ⟨async', sync, bad, hEq, hAsync, hTable⟩ := hRel
  dsimp only at hEq
  subst hEq
  refine ⟨s, ⟨_, _, bad, rfl, hAsync, hTable⟩, rfl, fun _ hBad => hBad, ?_⟩
  rintro ⟨old, old', hSound, hEarlier, -, item, hNow⟩ -
  refine ⟨old, s.syncRspTable, ?_, hEarlier, rfl⟩
  have hErased := hSound.tables.eraseSync i item
  rw [← hNow] at hErased
  exact ⟨hSound.queued, hErased, hSound.kind, hSound.timed⟩

/-- An access to `sync_rsp_table`. -/
theorem go_sync {core : Core} {t : Thread} {pc : SyncPc} {async : List (Thread × AsyncPc)}
    {r : Core × Option SyncPc} (hSound : Sound cfg s) (hRel : Rel cfg ⟨core, async, [(t, pc)]⟩ s)
    (hFault : core.fault = false) (hExec : syncExec t core pc = some r) :
    Simulated cfg ⟨core, async, [(t, pc)]⟩ ⟨r.1, async, r.2.toList.map (t, ·)⟩ s
      (syncCommits t pc) := by
  cases pc with
  | setUid i k => exact go_setSyncUid hSound hRel hFault hExec
  | setSem i k =>
    cases hExec
    exact go_setSem hRel
  | giveSem i resp => exact go_giveSem hRel hFault hExec
  | clearUid i =>
    cases hExec
    exact go_clearSyncUid hRel
  | clearSem i =>
    cases hExec
    obtain ⟨async', sync, bad, hEq, hAsync, hTable⟩ := hRel
    dsimp only at hEq
    subst hEq
    exact ⟨s, ⟨_, _, bad, rfl, hAsync, Eq.symm hTable⟩, rfl, fun _ hBad => hBad, fun h _ => h⟩

/-! ## Turning to a table -/

/-- A pass over `async_rsp_table` changes nothing. -/
theorem enter_async {t : Thread} {pc : AsyncPc} {core : Core} (hRel : Rel cfg u s)
    (hNone : u.async = []) (hPc : clearing [(t, pc)] = none) (hStopped : stopped s [(t, pc)] = none)
    (hOpen : AsyncOpen cfg s s.asyncRspTable t pc) (hCore : core = u.core ∨
      ∃ k, core = u.core.touch k ∧ Registers s k) :
    Simulated cfg u ⟨core, [(t, pc)], u.sync⟩ s none := by
  obtain ⟨core₀, works, sync⟩ := u
  obtain ⟨async, sync', bad, hEq, hAsync, hSync⟩ := hRel
  dsimp only at hEq hNone hCore
  subst hEq hNone
  have hTable : async = s.asyncRspTable := hAsync
  subst hTable
  have hStop : stopped s [] = none := rfl
  rcases hCore with rfl | ⟨k, rfl, hReg⟩
  · refine ⟨s, ⟨s.asyncRspTable, sync', bad, ?_, hOpen, hSync⟩, rfl, fun _ hBad => hBad, ?_⟩
    · dsimp only
      rw [hStopped, hStop]
    · intro h _
      obtain ⟨old, old', hSound, hEarlier, hEarlier'⟩ := h
      refine ⟨old, old', hSound, ?_, hEarlier'⟩
      rw [hPc]
      exact hEarlier
  · refine ⟨s, ⟨s.asyncRspTable, sync', bad || decide (0 < s.freed k), ?_, hOpen, hSync⟩, rfl,
      ?_, ?_⟩
    · dsimp only
      rw [hStopped, hStop]
      rfl
    · intro hUsed hBad
      have hSame : bad = s.badAccess := hBad
      subst hSame
      simp [Core.touch, shadow, hUsed k hReg]
    · intro h _
      obtain ⟨old, old', hSound, hEarlier, hEarlier'⟩ := h
      refine ⟨old, old', hSound, ?_, hEarlier'⟩
      rw [hPc]
      exact hEarlier

theorem enter_sync {t : Thread} {pc : SyncPc} {core : Core} (hRel : Rel cfg u s)
    (hNone : u.sync = []) (hPc : syncClearing [(t, pc)] = none)
    (hOpen : SyncOpen cfg s s.syncRspTable t pc)
    (hCore : core = u.core ∨ ∃ k, core = u.core.touch k ∧ Registers s k) :
    Simulated cfg u ⟨core, u.async, [(t, pc)]⟩ s none := by
  obtain ⟨core₀, async, works⟩ := u
  obtain ⟨async', sync, bad, hEq, hAsync, hSync⟩ := hRel
  dsimp only at hEq hNone hCore
  subst hEq hNone
  have hTable : sync = s.syncRspTable := hSync
  subst hTable
  rcases hCore with rfl | ⟨k, rfl, hReg⟩
  · refine ⟨s, ⟨async', s.syncRspTable, bad, rfl, hAsync, hOpen⟩, rfl, fun _ hBad => hBad, ?_⟩
    rintro ⟨old, old', hSound, hEarlier, hEarlier'⟩ -
    refine ⟨old, old', hSound, hEarlier, ?_⟩
    rw [hPc]
    exact hEarlier'
  · refine ⟨s, ⟨async', s.syncRspTable, bad || decide (0 < s.freed k), rfl, hAsync, hOpen⟩, rfl,
      ?_, ?_⟩
    · intro hUsed hBad
      have hSame : bad = s.badAccess := hBad
      subst hSame
      simp [Core.touch, shadow, hUsed k hReg]
    · rintro ⟨old, old', hSound, hEarlier, hEarlier'⟩ -
      refine ⟨old, old', hSound, hEarlier, ?_⟩
      rw [hPc]
      exact hEarlier'

/-- `wait_for_sync_response` deletes the semaphore, and has still to clear the entry. -/
theorem enter_clearSync {k i : Nat} {ok : Bool} (hSound : Sound cfg s) (hRel : Rel cfg u s)
    (hFault : u.core.fault ≠ true) (hNone : u.sync = []) (hPc : u.core.caller k = .taken i ok) :
    Simulated cfg u
      ⟨{ u.core.setCaller k (if ok then .receiving else .freeing none) with
          sem := deleteSem u.core.sem ((u.core.syncRspTable[i]?).bind (·.item)) },
        u.async, [(.caller k, .clearUid i)]⟩ s (some (.clearSync k)) := by
  obtain ⟨core₀, async, works⟩ := u
  obtain ⟨async', sync, bad, hEq, hAsync, hSync⟩ := hRel
  dsimp only at hEq hNone hPc
  subst hEq hNone
  have hTable : sync = s.syncRspTable := hSync
  subst hTable
  have hPc' : s.caller k = .taken i ok := hPc
  have hRunning : s.fault ≠ true := hFault
  have hStep : Core.step cfg s (.clearSync k) =
      some { s.setCaller k (if ok then .receiving else .freeing none) with
        sem := deleteSem s.sem ((s.syncRspTable[i]?).bind (·.item))
        syncRspTable := s.syncRspTable.set i ⟨0, none⟩ } := by
    simp only [Core.step, if_neg hRunning, clearSync, hPc']
  refine ⟨_, ⟨async', s.syncRspTable, bad, rfl, ?_, ?_⟩, hStep, fun _ hBad => hBad, ?_⟩
  · exact hAsync.congr rfl (fun _ _ _ _ hTx => hTx) fun _ hOld => ⟨hOld, rfl⟩
  · exact setItem_setUid_const.symm
  · rintro ⟨old, old', hOld, hEarlier, hEarlier'⟩ -
    refine ⟨old, s.syncRspTable, ?_, hEarlier, rfl, none, rfl⟩
    rw [show old' = s.syncRspTable from hEarlier'] at hOld
    have hSync : (cfg.app k).async = false := hSound.kind k (by rw [hPc']; rfl)
    have hBorn : s.caller k ≠ .unborn := by
      rw [hPc']
      exact CallerPc.noConfusion
    have hMoved : Sound cfg (Core.setCaller
        { s with asyncRspTable := old, syncRspTable := s.syncRspTable } k
        (if ok then .receiving else .freeing none)) :=
      hOld.setCaller hBorn (fun _ => by split <;> rfl)
        (by split <;> exact CallerPc.noConfusion) (by split <;> exact CallerPc.noConfusion)
        fun _ => hSync
    exact ⟨hMoved.queued, hMoved.tables, hMoved.kind, hMoved.timed⟩

/-- A thread turns to a table. -/
theorem enter_simulated (hSound : Sound cfg s) (hStarted : Started cfg s) (hRel : Rel cfg u s)
    (hFault : u.core.fault ≠ true) (hAlone : u.Alone (.act a)) (hEnter : u.enter cfg a = some v) :
    Simulated cfg u v s (u.commits cfg (.act a)) := by
  have hQuiet (hNot : ∀ k, a ≠ .clearSync k) : u.commits cfg (.act a) = none := by
    unfold commits
    cases a with
    | clearSync k => exact absurd rfl (hNot k)
    | _ =>
      dsimp only
      rw [hEnter]
      rfl
  have hCaller : u.core.caller = s.caller ∧ u.core.tx = s.tx ∧ u.core.rx = s.rx ∧
      u.core.uidOf = s.uidOf := by
    obtain ⟨async, sync, bad, hEq, -, -⟩ := hRel
    rw [hEq]
    exact ⟨rfl, rfl, rfl, rfl⟩
  have hAsyncTable (hNone : u.async = []) : u.core.asyncRspTable = s.asyncRspTable ∧
      u.core.timer = s.timer := by
    obtain ⟨async, sync, bad, hEq, hAsync, -⟩ := hRel
    rw [hNone] at hEq hAsync
    rw [hEq]
    exact ⟨hAsync, rfl⟩
  have hSyncTable (hNone : u.sync = []) : u.core.syncRspTable = s.syncRspTable := by
    obtain ⟨async, sync, bad, hEq, -, hSync⟩ := hRel
    rw [hNone] at hSync
    rw [hEq]
    exact hSync
  cases a with
  | setSyncRespSem k createOk =>
    rw [hQuiet nofun]
    have hNone := hAlone.2 rfl
    simp only [enter, hSyncTable hNone, hCaller.1] at hEnter
    split at hEnter
    · rename_i hPc
      obtain ⟨i, hFree, rfl⟩ := Option.map_eq_some_iff.mp hEnter
      rw [hNone]
      refine enter_sync hRel hNone rfl ⟨rfl, rfl, hFree, hPc.2.1⟩ (.inr ⟨k, rfl, .inl hPc.1⟩)
    · cases hEnter
  | clearSync k =>
    have hNone := hAlone.2 rfl
    simp only [enter] at hEnter
    split at hEnter
    · rename_i i ok hPc
      cases hEnter
      rw [hNone]
      exact enter_clearSync hSound hRel hFault hNone hPc
    · cases hEnter
  | txPostSync =>
    rw [hQuiet nofun]
    have hNone := hAlone.2 rfl
    simp only [enter, hSyncTable hNone] at hEnter
    split at hEnter
    · split at hEnter
      · rename_i hRange
        obtain ⟨i, hFind, rfl⟩ := Option.map_eq_some_iff.mp hEnter
        rw [hNone]
        exact enter_sync hRel hNone rfl ⟨rfl, hFind, hRange⟩ (.inl rfl)
      · cases hEnter
    · cases hEnter
  | rxPostSync =>
    rw [hQuiet nofun]
    have hNone := hAlone.2 rfl
    simp only [enter, hSyncTable hNone] at hEnter
    split at hEnter
    · split at hEnter
      · rename_i hRange
        obtain ⟨i, hFind, rfl⟩ := Option.map_eq_some_iff.mp hEnter
        rw [hNone]
        exact enter_sync hRel hNone rfl ⟨rfl, hFind, hRange⟩ (.inl rfl)
      · cases hEnter
    · cases hEnter
  | setAsyncRespCallback =>
    rw [hQuiet nofun]
    have hNone := hAlone.1 rfl
    simp only [enter, (hAsyncTable hNone).1] at hEnter
    split at hEnter
    · rename_i k hPc
      split at hEnter
      · rename_i hRange
        obtain ⟨i, hFree, rfl⟩ := Option.map_eq_some_iff.mp hEnter
        rw [hCaller.2.1] at hPc
        rw [hNone]
        exact enter_async hRel hNone rfl rfl ⟨rfl, rfl, hFree, hRange⟩
          (.inr ⟨k, rfl, .inr (.inr hPc)⟩)
      · cases hEnter
    · cases hEnter
  | callAsync =>
    rw [hQuiet nofun]
    have hNone := hAlone.1 rfl
    simp only [enter, (hAsyncTable hNone).1] at hEnter
    split at hEnter
    · obtain ⟨i, hFind, rfl⟩ := Option.map_eq_some_iff.mp hEnter
      rw [hNone]
      exact enter_async hRel hNone rfl rfl ⟨rfl, hFind⟩ (.inl rfl)
    · cases hEnter
  | rxClearAsync =>
    rw [hQuiet nofun]
    have hNone := hAlone.1 rfl
    simp only [enter, (hAsyncTable hNone).1] at hEnter
    split at hEnter
    · split at hEnter
      · rename_i i hPc hUse
        have hUse' : InUse s i := by
          obtain ⟨e, he, hNe⟩ := (Option.any_eq_true ..).mp hUse
          exact ⟨e, he, by simpa using hNe⟩
        cases hEnter
        rw [hNone]
        exact enter_async hRel hNone rfl rfl ⟨rfl, trivial, hUse'⟩ (.inl rfl)
      · cases hEnter
    · cases hEnter
  | timerClear k =>
    rw [hQuiet nofun]
    have hNone := hAlone.1 rfl
    simp only [enter, (hAsyncTable hNone).1, (hAsyncTable hNone).2, hCaller.2.2.2] at hEnter
    split at hEnter
    · rename_i hPc
      obtain ⟨i, hFind, rfl⟩ := Option.map_eq_some_iff.mp hEnter
      have hQueued := (hStarted k (by rw [hPc]; nofun)).2.1
      have hLt : k < s.next := hSound.queued.lt_next fun hUnborn => by
        rw [hUnborn] at hQueued
        cases hQueued
      rw [hNone]
      exact enter_async hRel hNone rfl rfl ⟨rfl, hLt, hFind⟩ (.inl rfl)
    · cases hEnter
  | _ => cases hEnter

/-- Every step is a step of `Core`, the one that is done with it, or none. -/
theorem simulates {act : Act} (hSound : Sound cfg s) (hStarted : Started cfg s)
    (hRel : Rel cfg u s) (hAlone : u.Alone act) (hStep : u.step cfg act = some v) :
    Simulated cfg u v s (u.commits cfg act) := by
  cases act with
  | act a =>
    simp only [step] at hStep
    split at hStep
    · cases hStep
    · rename_i hRuns
      obtain ⟨hFault, hBusy⟩ := not_or.mp hRuns
      split at hStep
      · rename_i v' hEnter
        cases hStep
        exact enter_simulated hSound hStarted hRel hFault hAlone hEnter
      · rename_i hEnter
        obtain ⟨core, hCore, rfl⟩ := Option.map_eq_some_iff.mp hStep
        have hCommits : u.commits cfg (.act a) = some a := by
          unfold commits
          cases a with
          | clearSync k => rfl
          | _ =>
            dsimp only
            rw [hEnter]
            rfl
        rw [hCommits]
        exact whole_simulated hSound hRel hAlone hBusy hCore
  | go t =>
    obtain ⟨core, async, sync⟩ := u
    simp only [step] at hStep
    split at hStep
    · cases hStep
    · rename_i hFault
      rw [Bool.not_eq_true] at hFault
      have hRel' := hRel
      obtain ⟨async', sync', bad, -, hAsync, hSync⟩ := hRel'
      split at hStep
      · rename_i w hFind
        obtain ⟨r, hExec, rfl⟩ := Option.map_eq_some_iff.mp hStep
        have hMem := List.mem_of_find?_eq_some hFind
        have hThread : w.1 = t := by simpa using List.find?_some hFind
        match async, hAsync with
        | [w'], _ =>
          obtain rfl := List.mem_singleton.mp hMem
          obtain ⟨t', pc⟩ := w
          obtain rfl : t' = t := hThread
          have hNext : advance [(t', pc)] t' r.2 = r.2.toList.map (t', ·) := by
            simp [advance]
          have hCommits : commits cfg ⟨core, [(t', pc)], sync⟩ (.go t') =
              asyncCommits t' core pc := by
            simp [commits]
          rw [hNext, hCommits]
          exact go_async hRel hFault hExec
      · rename_i w hNone hFind
        obtain ⟨r, hExec, rfl⟩ := Option.map_eq_some_iff.mp hStep
        have hMem := List.mem_of_find?_eq_some hFind
        have hThread : w.1 = t := by simpa using List.find?_some hFind
        match sync, hSync with
        | [w'], _ =>
          obtain rfl := List.mem_singleton.mp hMem
          obtain ⟨t', pc⟩ := w
          obtain rfl : t' = t := hThread
          have hNext : advance [(t', pc)] t' r.2 = r.2.toList.map (t', ·) := by
            simp [advance]
          have hCommits : commits cfg ⟨core, async, [(t', pc)]⟩ (.go t') =
              syncCommits t' pc := by
            simp only [commits, hNone]
            simp
          rw [hNext, hCommits]
          exact go_sync hSound hRel hFault hExec
      · cases hStep

/-! ## The memory when a step is done -/

/-- A thread that takes a step of `Core` is done with that step. -/
theorem commits_act {b : Action} (h : u.commits cfg (.act a) = some b) : b = a := by
  unfold commits at h
  cases a with
  | clearSync k => exact (Option.some.inj h).symm
  | _ => exact (Option.some.inj (Option.ite_none_right_eq_some.mp h).2).symm

/-- The memory when a step that uses `async_rsp_table` is done: that of the state, or the handle of
a timer has gone from the entry that is cleared. -/
theorem commits_memory {act : Act} {b : Action} (hRel : Rel cfg u s) (hAlone : u.Alone act)
    (hb : u.commits cfg act = some b) (hUses : b.usesAsync = true) :
    (u.core.asyncRspTable = s.asyncRspTable ∧ u.core.timer = s.timer) ∨
      (∃ t, clearAction t = some b) ∧ ∃ i h,
        u.core.asyncRspTable = setItem s.asyncRspTable i ({ · with timerHdl := none }) ∧
        u.core.timer = stopTimer s.timer h := by
  obtain ⟨core, works, sync⟩ := u
  obtain ⟨async, sync', bad, hEq, hAsync, -⟩ := hRel
  dsimp only at hEq
  subst hEq
  cases act with
  | act a =>
    obtain rfl : b = a := commits_act hb
    obtain rfl : works = [] := hAlone.1 hUses
    exact .inl ⟨hAsync, rfl⟩
  | go t =>
    simp only [commits] at hb
    split at hb
    · rename_i w hFind
      have hMem := List.mem_of_find?_eq_some hFind
      match works, hAsync with
      | [w'], hOpen =>
        obtain rfl := List.mem_singleton.mp hMem
        obtain ⟨t', pc⟩ := w
        cases pc with
        | setUid i k | callCb i resp | testUid i => exact .inl ⟨hOpen.1, rfl⟩
        | freeReq i => exact .inr ⟨⟨t, hb⟩, i, _, hOpen.1, rfl⟩
        | _ => cases hb
    · rename_i w hNone hFind
      cases hPc : w.2 with
      | setUid i k =>
        rw [hPc] at hb
        cases hb
        cases hUses
      | giveSem i resp =>
        rw [hPc] at hb
        cases t <;> cases hb <;> cases hUses
      | _ =>
        rw [hPc] at hb
        cases hb
    · cases hb

/-- A uid of the state is in the memory. -/
theorem has_async_memory {table : List (Slot AsyncItem)} {works : List (Thread × AsyncPc)}
    (h : AsyncRel cfg s table works) {uid : Nat} (hNe : uid ≠ 0) (hHas : Has s.asyncRspTable uid) :
    Has table uid := by
  cases hClearing : clearing works with
  | none => rwa [has_iff_mem, ← h.uids hClearing, ← has_iff_mem]
  | some i =>
    match works with
    | [(t, .clearUid i)] =>
      rw [show s.asyncRspTable = _ from h, has_setItem] at hHas
      exact (has_setUid hHas).resolve_left hNe

theorem has_sync_memory {table : List (Slot (Option Nat))} {works : List (Thread × SyncPc)}
    (h : SyncRel cfg s table works) {uid : Nat} (hNe : uid ≠ 0) (hHas : Has s.syncRspTable uid) :
    Has table uid := by
  cases hClearing : syncClearing works with
  | none => rwa [has_iff_mem, ← h.uids hClearing, ← has_iff_mem]
  | some i =>
    match works with
    | [(t, .clearUid i)] =>
      rw [show s.syncRspTable = _ from h, has_setItem] at hHas
      exact (has_setUid hHas).resolve_left hNe

theorem freshUid_state (hRel : Rel cfg u s) (h : FreshUid cfg u.core a) : FreshUid cfg s a := by
  obtain ⟨async, sync, bad, hEq, hAsync, hSync⟩ := hRel
  cases a with
  | sendReq =>
    obtain ⟨hNotSync, hNotAsync, hNotPending⟩ := h
    have hNew : u.core.nextUid = s.nextUid := by rw [hEq]; rfl
    rw [hNew] at hNotSync hNotAsync hNotPending
    rw [hEq] at hNotSync hNotAsync hNotPending
    have hNe := s.nextUid_ne_zero
    exact ⟨fun hHas => hNotSync (has_sync_memory hSync hNe hHas),
      fun hHas => hNotAsync (has_async_memory hAsync hNe hHas), hNotPending⟩
  | _ => trivial

/-- The memory when a step that uses `sync_rsp_table` is done. -/
theorem commits_sync_memory {act : Act} {b : Action} (hRel : Rel cfg u s) (hAlone : u.Alone act)
    (hb : u.commits cfg act = some b) (hUses : b.usesSync = true) :
    u.core.syncRspTable = s.syncRspTable := by
  obtain ⟨core, works, sync⟩ := u
  obtain ⟨async, sync', bad, hEq, -, hSync⟩ := hRel
  dsimp only at hEq
  subst hEq
  cases act with
  | act a =>
    obtain rfl : b = a := commits_act hb
    obtain rfl : sync = [] := hAlone.2 hUses
    exact hSync
  | go t =>
    simp only [commits] at hb
    split at hb
    · rename_i w hFind
      have hNot : b.usesSync = false := by
        cases hPc : w.2 with
        | setUid i k | callCb i resp =>
          rw [hPc] at hb
          cases hb
          rfl
        | testUid i =>
          rw [hPc] at hb
          simp only [asyncCommits] at hb
          split at hb
          · cases hb
          · cases t <;> cases hb <;> rfl
        | freeReq i =>
          rw [hPc] at hb
          cases t <;> cases hb <;> rfl
        | _ =>
          rw [hPc] at hb
          cases hb
      rw [hNot] at hUses
      cases hUses
    · rename_i w hNone hFind
      have hMem := List.mem_of_find?_eq_some hFind
      match sync, hSync with
      | [w'], hOpen =>
        obtain rfl := List.mem_singleton.mp hMem
        obtain ⟨t', pc⟩ := w
        cases pc with
        | setUid i k | giveSem i resp => exact hOpen.1
        | _ => cases hb
    · cases hb

end Unlocked

end EspHosted.Rpc
