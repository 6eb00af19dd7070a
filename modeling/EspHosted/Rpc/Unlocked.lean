import EspHosted.Rpc.Core

/-!
# The tables without a lock

No lock guards `sync_rsp_table` and `async_rsp_table`. In `Core` a function that looks for an entry
and uses it is one step; here the pass over the table is a step, and then every access to the entry
that was found is one, so that another thread can come in between. The steps of the other functions
are those of `Core`, and so is `cleanup_sync_async_timer_table`.

A function of `Core` counts as done with the access that the others can tell it by, which
`commits` names: the first write of a new entry, the call of a callback, the deletion or the giving
of a semaphore, and the `h_free` of a request.
-/

namespace EspHosted.Rpc

open Slots

/-! ## State -/

/-- The threads that use the tables. -/
inductive Thread
  | caller (k : Nat)
  | tx
  | rx
  | timer (k : Nat)
  deriving DecidableEq

/-- The next access to entry `i` of `async_rsp_table`. -/
inductive AsyncPc
  /-- `uid`, `cb`, `timer_hdl` and `app_req` of `set_async_resp_callback` for request `k` -/
  | setUid (i k : Nat)
  | setCb (i k : Nat)
  | setTimer (i k : Nat)
  | setReq (i k : Nat)
  /-- `async_rsp_table[i].cb(app_resp)` -/
  | callCb (i : Nat) (resp : Resp)
  /-- `if (async_rsp_item->uid != 0)` of `clear_async_resp_callback` -/
  | testUid (i : Nat)
  /-- `h_timer_stop` -/
  | stopTimer (i : Nat)
  /-- `timer_hdl = NULL` -/
  | clearTimer (i : Nat)
  /-- `h_free(async_rsp_item->app_req)` -/
  | freeReq (i : Nat)
  /-- `uid = 0` and `cb = NULL` -/
  | clearUid (i : Nat)
  | clearCb (i : Nat)
  deriving DecidableEq

/-- The next access to entry `i` of `sync_rsp_table`. -/
inductive SyncPc
  /-- `uid` and `sem` of `set_sync_resp_sem` for request `k` -/
  | setUid (i k : Nat)
  | setSem (i k : Nat)
  /-- `h_sem_give(sync_rsp_table[i].sem)` -/
  | giveSem (i : Nat) (resp : Resp)
  /-- `uid = 0` and `sem = NULL` of `wait_for_sync_response` -/
  | clearUid (i : Nat)
  | clearSem (i : Nat)
  deriving DecidableEq

/-- The threads that are in the middle of a function on a table, with what they do next. -/
structure Unlocked where
  core : Core
  async : List (Thread × AsyncPc)
  sync : List (Thread × SyncPc)

namespace Core

/-- The thread that makes the step. -/
def Action.thread : Action → Option Thread
  | .setSyncRespSem k _ | .queueTx k _ | .failReq k | .rpcTxInd k | .readRspCb k | .lookupSem k
  | .takeSem k | .semTimeout k | .clearSync k | .recvRx k | .freeReq k => some (.caller k)
  | .txTakeSem | .recvTx | .composeReq _ | .startTimer _ | .setAsyncRespCallback | .serialSend _
  | .txCleanup | .notifyFail _ | .txPostSync | .failCleanup | .scanAsync => some .tx
  | .recvResp _ | .isAsyncAvailable | .callAsync | .rxClearAsync | .queueRx | .rxPostSync =>
    some .rx
  | .timerRead k _ | .timerClear k | .timerCall k => some (.timer k)
  | .sendReq | .expire _ | .drainRx | .drainTx | .cleanupTables | .cancelThreads => none

/-- The step uses `async_rsp_table`. A thread that is cancelled may be about to. -/
def Action.usesAsync : Action → Bool
  | .setAsyncRespCallback | .scanAsync | .isAsyncAvailable | .callAsync | .rxClearAsync
  | .timerClear _ | .cleanupTables | .cancelThreads => true
  | _ => false

/-- The step uses `sync_rsp_table`. -/
def Action.usesSync : Action → Bool
  | .setSyncRespSem .. | .lookupSem _ | .clearSync _ | .txPostSync | .rxPostSync | .cleanupTables
  | .cancelThreads => true
  | _ => false

/-- `h_sem_give` for the semaphore of an entry. -/
def giveSem (i : Nat) (s : Core) : Core :=
  match (s.syncRspTable[i]?).bind (·.item) with
  | none => { s with fault := true }
  | some k =>
    match s.sem k with
    | .live given =>
      { s with
        sem := Function.update s.sem k (.live true)
        woken := if given then s.woken else s.woken ++ [k] }
    | _ => { s with fault := true }

/-- A thread is done with an entry that it clears. -/
def leaveClear (t : Thread) (i : Nat) (s : Core) : Option Core :=
  match t with
  | .rx => if s.rx = .clearing i then some { s with rx := .idle } else none
  | .timer k =>
    if s.timer k = .clearing then
      some { s with timer := Function.update s.timer k .calling }
    else none
  | _ => none

/-- A thread is done with the semaphore of a response. -/
def leavePost (t : Thread) (resp : Resp) (s : Core) : Option Core :=
  match t with
  | .rx => if s.rx = .posting resp then some { s with rx := .idle } else none
  | .tx =>
    match s.tx with
    | .posting k r => if r = resp then some { s with tx := .failCleaning k } else none
    | _ => none
  | _ => none

/-! ## Single accesses -/

def asyncExec (t : Thread) (s : Core) : AsyncPc → Option (Core × Option AsyncPc)
  | .setUid i k =>
    if s.tx = .registering k then
      some ({ s.touch k with
        tx := .sending k, asyncRspTable := setUid s.asyncRspTable i (s.uidOf k) },
        some (.setCb i k))
    else none
  | .setCb i k =>
    some ({ s with asyncRspTable := setItem s.asyncRspTable i ({ · with cb := some k }) },
      some (.setTimer i k))
  | .setTimer i k =>
    some ({ s with asyncRspTable := setItem s.asyncRspTable i ({ · with timerHdl := some k }) },
      some (.setReq i k))
  | .setReq i k =>
    some ({ s with asyncRspTable := setItem s.asyncRspTable i ({ · with appReq := some k }) }, none)
  | .callCb i resp =>
    if s.rx = .calling resp then
      match (s.asyncRspTable[i]?).bind (·.item.cb) with
      | none => some ({ s with fault := true }, none)
      | some k =>
        some ({ s with
          rx := .clearing i, cbCalls := Function.update s.cbCalls k (s.cbCalls k + 1) }, none)
    else none
  | .testUid i =>
    if (s.asyncRspTable[i]?).any (·.uid ≠ 0) then some (s, some (.stopTimer i))
    else (leaveClear t i s).map fun s => (s, none)
  | .stopTimer i =>
    some ({ s with timer := Core.stopTimer s.timer ((s.asyncRspTable[i]?).bind (·.item.timerHdl)) },
      some (.clearTimer i))
  | .clearTimer i =>
    some ({ s with asyncRspTable := setItem s.asyncRspTable i ({ · with timerHdl := none }) },
      some (.freeReq i))
  | .freeReq i =>
    (leaveClear t i s).map fun s =>
      ({ s with freed := freePtr s.freed ((s.asyncRspTable[i]?).bind (·.item.appReq)) },
        some (.clearUid i))
  | .clearUid i =>
    some ({ s with asyncRspTable := setUid s.asyncRspTable i 0 }, some (.clearCb i))
  | .clearCb i =>
    some ({ s with asyncRspTable := setItem s.asyncRspTable i ({ · with cb := none }) }, none)

/-- The semaphore of a request is created before the pass over the table; only the caller has it
until it stands in an entry. -/
def syncExec (t : Thread) (s : Core) : SyncPc → Option (Core × Option SyncPc)
  | .setUid i k =>
    if s.caller k = .registering then
      some ({ (s.touch k).setCaller k .queueing with
        sem := Function.update s.sem k (.live false)
        syncRspTable := setUid s.syncRspTable i (s.uidOf k) }, some (.setSem i k))
    else none
  | .setSem i k =>
    some ({ s.touch k with syncRspTable := setItem s.syncRspTable i fun _ => some k }, none)
  | .giveSem i resp => (leavePost t resp s).map fun s => (s.giveSem i, none)
  | .clearUid i =>
    some ({ s with syncRspTable := setUid s.syncRspTable i 0 }, some (.clearSem i))
  | .clearSem i =>
    some ({ s with syncRspTable := setItem s.syncRspTable i fun _ => none }, none)

end Core

namespace Unlocked

open Rpc.Core

def init (cfg : Config) : Unlocked := { core := Core.init cfg, async := [], sync := [] }

/-- The thread is in the middle of a function on a table. -/
def busy (u : Unlocked) (t : Thread) : Bool :=
  u.async.any (·.1 = t) || u.sync.any (·.1 = t)

/-- What the thread does next, if it is not done. -/
def advance {α : Type} (works : List (Thread × α)) (t : Thread) (next : Option α) :
    List (Thread × α) :=
  (next.toList.map fun pc => (t, pc)) ++ works.filter (·.1 ≠ t)

/-- The pass over a table that finds an entry to use. For `wait_for_sync_response`, which knows the
entry already, this is `h_sem_delete`. -/
def enter (cfg : Config) (u : Unlocked) : Action → Option Unlocked
  | .setSyncRespSem k createOk =>
    if u.core.caller k = .registering ∧ (cfg.app k).expRespMsgId < rpcIdRespMax ∧
        createOk = true then
      (findFree u.core.syncRspTable).map fun i =>
        { u with core := u.core.touch k, sync := (.caller k, .setUid i k) :: u.sync }
    else none
  | .clearSync k =>
    match u.core.caller k with
    | .taken i ok =>
      some { u with
        core := { u.core.setCaller k (if ok then .receiving else .freeing none) with
          sem := deleteSem u.core.sem ((u.core.syncRspTable[i]?).bind (·.item)) }
        sync := (.caller k, .clearUid i) :: u.sync }
    | _ => none
  | .txPostSync =>
    match u.core.tx with
    | .posting _ resp =>
      if resp.InRange then
        (find u.core.syncRspTable resp.uid).map fun i =>
          { u with sync := (.tx, .giveSem i resp) :: u.sync }
      else none
    | _ => none
  | .rxPostSync =>
    match u.core.rx with
    | .posting resp =>
      if resp.InRange then
        (find u.core.syncRspTable resp.uid).map fun i =>
          { u with sync := (.rx, .giveSem i resp) :: u.sync }
      else none
    | _ => none
  | .setAsyncRespCallback =>
    match u.core.tx with
    | .registering k =>
      if (cfg.app k).expRespMsgId < rpcIdRespMax then
        (findFree u.core.asyncRspTable).map fun i =>
          { u with core := u.core.touch k, async := (.tx, .setUid i k) :: u.async }
      else none
    | _ => none
  | .callAsync =>
    match u.core.rx with
    | .calling resp =>
      (find u.core.asyncRspTable resp.uid).map fun i =>
        { u with async := (.rx, .callCb i resp) :: u.async }
    | _ => none
  | .rxClearAsync =>
    match u.core.rx with
    | .clearing i =>
      if (u.core.asyncRspTable[i]?).any (·.uid ≠ 0) then
        some { u with async := (.rx, .stopTimer i) :: u.async }
      else none
    | _ => none
  | .timerClear k =>
    if u.core.timer k = .clearing then
      (find u.core.asyncRspTable (u.core.uidOf k)).map fun i =>
        { u with async := (.timer k, .testUid i) :: u.async }
    else none
  | _ => none

inductive Act
  | act (a : Action)
  | go (t : Thread)

/-- A thread that is cancelled does nothing more. -/
def drop (a : Action) (u : Unlocked) : Unlocked :=
  match a with
  | .cancelThreads =>
    { u with
      async := u.async.filter fun w => w.1 ≠ .tx ∧ w.1 ≠ .rx
      sync := u.sync.filter fun w => w.1 ≠ .tx ∧ w.1 ≠ .rx }
  | _ => u

/-- One step; nothing happens after a fault. -/
def step (cfg : Config) (u : Unlocked) : Act → Option Unlocked
  | .act a =>
    if u.core.fault ∨ a.thread.any u.busy then none
    else
      match u.enter cfg a with
      | some v => some v
      | none => (Core.step cfg u.core a).map fun core => { u.drop a with core }
  | .go t =>
    if u.core.fault then none
    else
      match u.async.find? (·.1 = t), u.sync.find? (·.1 = t) with
      | some w, _ =>
        (asyncExec t u.core w.2).map fun r =>
          { u with core := r.1, async := advance u.async t r.2 }
      | none, some w =>
        (syncExec t u.core w.2).map fun r =>
          { u with core := r.1, sync := advance u.sync t r.2 }
      | none, none => none

/-! ## What the steps do -/

/-- The step of `Core` that clears an entry. -/
def clearAction : Thread → Option Action
  | .rx => some .rxClearAsync
  | .timer k => some (.timerClear k)
  | _ => none

def postAction : Thread → Option Action
  | .rx => some .rxPostSync
  | .tx => some .txPostSync
  | _ => none

def asyncCommits (t : Thread) (s : Core) : AsyncPc → Option Action
  | .setUid .. => some .setAsyncRespCallback
  | .callCb .. => some .callAsync
  | .testUid i =>
    if (s.asyncRspTable[i]?).any (·.uid ≠ 0) then none else clearAction t
  | .freeReq _ => clearAction t
  | _ => none

def syncCommits (t : Thread) : SyncPc → Option Action
  | .setUid _ k => some (.setSyncRespSem k true)
  | .giveSem .. => postAction t
  | _ => none

/-- The step of `Core` that is done with this access. -/
def commits (cfg : Config) (u : Unlocked) : Act → Option Action
  | .act (.clearSync k) => some (.clearSync k)
  | .act a => if (u.enter cfg a).isNone then some a else none
  | .go t =>
    match u.async.find? (·.1 = t), u.sync.find? (·.1 = t) with
    | some w, _ => asyncCommits t u.core w.2
    | none, some w => syncCommits t w.2
    | none, none => none

/-- No thread turns to a table while another is in the middle of a function on it. -/
def Alone (u : Unlocked) : Act → Prop
  | .act a => (a.usesAsync = true → u.async = []) ∧ (a.usesSync = true → u.sync = [])
  | .go _ => True

instance (u : Unlocked) (a : Act) : Decidable (u.Alone a) := by
  cases a with
  | act a => exact inferInstanceAs (Decidable (_ ∧ _))
  | go _ => exact .isTrue trivial

/-- Every step of `Core` satisfies `G` in the memory as it is then, and one thread at a time uses a
table. -/
def Orderly (cfg : Config) (G : Core → Action → Prop) (u : Unlocked) (a : Act) : Prop :=
  u.Alone a ∧ ∀ b ∈ u.commits cfg a, G u.core b

instance (cfg : Config) (G : Core → Action → Prop) [∀ s a, Decidable (G s a)] (u : Unlocked)
    (a : Act) : Decidable (Orderly cfg G u a) :=
  inferInstanceAs (Decidable (_ ∧ _))

end Unlocked

end EspHosted.Rpc
