import EspHosted.Lib.Machine
import EspHosted.Lib.Slots
import Mathlib.Logic.Function.Basic

/-!
# The host's RPC core

Application threads hand requests to `rpc_send_req`. The tx thread takes them out of
`rpc_tx_q`, registers a callback and a timer for an asynchronous request and sends the
message. The rx thread calls the callback of the request that a response belongs to, or puts
the response into `rpc_rx_q` and gives the semaphore that the caller of
`rpc_wait_and_parse_sync_resp` waits for. The timer of an asynchronous request runs
`rpc_async_timeout_handler`, and `rpc_core_deinit` frees what is left.

Requests are numbered in the order in which they get their uid. The state has the program
counter of every thread, and one step is one pass over a table with what is done to the entry
that it finds (`Unlocked` takes these apart), one operation on a queue, semaphore or timer, one
callback, or one `h_free`. Some fields are there for the statements only: how often a request was
freed and its callback called, whether a request was touched after it was freed, and the order in
which semaphores were given.
-/

namespace EspHosted.Rpc

open Slots

def rpcIdReqBase : Nat := 256
def rpcIdRespBase : Nat := 512
def rpcIdRespMax : Nat := 653
def rpcRxQueueSize : Nat := 3
def rpcTxQueueSize : Nat := 5

/-- What the RPC core reads of an `app_req`; `async` says that `rpc_rsp_cb` is not `NULL`. -/
structure AppReq where
  msgId : Nat
  async : Bool

/-- `msg_id - RPC_ID__Req_Base + RPC_ID__Resp_Base`. -/
def AppReq.expRespMsgId (r : AppReq) : Nat := r.msgId + rpcIdRespBase - rpcIdReqBase

/-- A response in the form of a `ctrl_cmd_t`. -/
structure Resp where
  msgId : Nat
  uid : Nat
  deriving DecidableEq

def Resp.InRange (r : Resp) : Prop := rpcIdRespBase ≤ r.msgId ∧ r.msgId < rpcIdRespMax

instance (r : Resp) : Decidable r.InRange := inferInstanceAs (Decidable (_ ∧ _))

/-- `H_MAX_SYNC_RPC_REQUESTS`, `H_MAX_ASYNC_RPC_REQUESTS`, and the requests of the
application. -/
structure Config where
  maxSync : Nat
  maxAsync : Nat
  app : Nat → AppReq

/-! ## State -/

/-- A thread in `rpc_send_req` and, for a synchronous request, `rpc_wait_and_parse_sync_resp`.
`waiting` and `taken` have the index of the table entry, `waiting` also the semaphore that
was read from it (that of a request). -/
inductive CallerPc
  | unborn
  | registering
  | queueing
  | indicating
  | returned
  | lookup
  | waiting (i : Nat) (sem : Option Nat)
  | taken (i : Nat) (ok : Bool)
  | receiving
  | freeing (resp : Option Resp)
  | finished (resp : Option Resp)
  | failing
  | failed
  deriving DecidableEq

/-- The request has been in `rpc_tx_q`. -/
def CallerPc.queued : CallerPc → Bool
  | .unborn | .registering | .queueing | .failing | .failed => false
  | _ => true

/-- Only a thread with a synchronous request comes here. -/
def CallerPc.syncOnly : CallerPc → Bool
  | .registering | .lookup | .waiting .. | .taken .. | .receiving | .freeing _ => true
  | _ => false

/-- `rx_sem` of a request, a binary semaphore. -/
inductive Sem
  | absent
  | live (given : Bool)
  | deleted
  deriving DecidableEq

/-- The timer of a request: not started, running, in `rpc_async_timeout_handler` (before it
reads `app_req`, before it clears the table, before it calls the callback), and stopped or
done. -/
inductive TimerPc
  | unarmed
  | armed
  | expired
  | clearing
  | calling
  | over
  deriving DecidableEq

/-- The tx thread. From `composing` on it is inside `process_rpc_tx_msg`; the four last
places before `cancelled` are behind `fail_req`. -/
inductive TxPc
  | idle
  | dequeuing
  | composing (k : Nat)
  | starting (k : Nat)
  | registering (k : Nat)
  | sending (k : Nat)
  | cleaning (k : Nat)
  | notifying (k : Nat)
  | posting (k : Nat) (resp : Resp)
  | failCleaning (k : Nat)
  | scanning (k : Nat)
  | cancelled
  deriving DecidableEq

/-- The request in the hands of the tx thread. -/
def TxPc.held : TxPc → Option Nat
  | .composing k | .starting k | .registering k | .sending k | .cleaning k | .notifying k
  | .posting k _ | .failCleaning k | .scanning k => some k
  | .idle | .dequeuing | .cancelled => none

/-- The rx thread in `process_rpc_rx_msg`; `clearing` is inside `call_async_resp_callback`,
behind the callback of entry `i`. -/
inductive RxPc
  | idle
  | dispatching (resp : Resp)
  | calling (resp : Resp)
  | clearing (i : Nat)
  | queueing (resp : Resp)
  | posting (resp : Resp)
  | cancelled
  deriving DecidableEq

/-- The response whose callback is looked up, and the one whose semaphore is. -/
def RxPc.called : RxPc → Option Resp
  | .calling resp => some resp
  | _ => none

def RxPc.posted : RxPc → Option Resp
  | .posting resp => some resp
  | _ => none

def TxPc.posted : TxPc → Option Resp
  | .posting _ resp => some resp
  | _ => none

/-- How far `rpc_core_deinit` has come. -/
inductive DeinitPc
  | none
  | rxDrained
  | txDrained
  | cleaned
  | cancelled
  deriving DecidableEq

/-- `async_rsp_t` without the uid. Callbacks, timers and requests are named by the number of
the request they belong to. -/
structure AsyncItem where
  cb : Option Nat
  timerHdl : Option Nat
  appReq : Option Nat

structure Core where
  next : Nat
  uid : Nat
  uidOf : Nat → Nat
  caller : Nat → CallerPc
  sem : Nat → Sem
  timer : Nat → TimerPc
  syncRspTable : List (Slot (Option Nat))
  asyncRspTable : List (Slot AsyncItem)
  rpcTxQ : List Nat
  rpcTxQOpen : Bool
  rpcTxSem : Nat
  rpcRxQ : List Resp
  rpcRxQOpen : Bool
  tx : TxPc
  rx : RxPc
  deinit : DeinitPc
  freed : Nat → Nat
  cbCalls : Nat → Nat
  woken : List Nat
  badAccess : Bool
  fault : Bool

namespace Core

def init (cfg : Config) : Core :=
  { next := 0, uid := 0, uidOf := fun _ => 0, caller := fun _ => .unborn,
    sem := fun _ => .absent, timer := fun _ => .unarmed,
    syncRspTable := List.replicate cfg.maxSync ⟨0, none⟩,
    asyncRspTable := List.replicate cfg.maxAsync ⟨0, none, none, none⟩,
    rpcTxQ := [], rpcTxQOpen := true, rpcTxSem := 0, rpcRxQ := [], rpcRxQOpen := true,
    tx := .idle, rx := .idle, deinit := .none, freed := fun _ => 0, cbCalls := fun _ => 0,
    woken := [], badAccess := false, fault := false }

/-- `app_req` of request `k` is read or written. -/
def touch (s : Core) (k : Nat) : Core :=
  { s with badAccess := s.badAccess || decide (0 < s.freed k) }

/-- `h_free(app_req)`. -/
def free (s : Core) (k : Nat) : Core :=
  { s with freed := Function.update s.freed k (s.freed k + 1) }

def setCaller (s : Core) (k : Nat) (pc : CallerPc) : Core :=
  { s with caller := Function.update s.caller k pc }

/-! ## Callers -/

/-- The uid that the next request gets, 0 being left out. -/
def nextUid (s : Core) : Nat := if (s.uid + 1) % 2 ^ 32 = 0 then 1 else (s.uid + 1) % 2 ^ 32

/-- `rpc_send_req` up to the end of the mutex. -/
def sendReq (cfg : Config) (s : Core) : Option Core :=
  some { s with
    next := s.next + 1
    uid := s.nextUid
    uidOf := Function.update s.uidOf s.next s.nextUid
    caller := Function.update s.caller s.next
      (if (cfg.app s.next).async then .queueing else .registering) }

/-- `set_sync_resp_sem`. -/
def setSyncRespSem (cfg : Config) (createOk : Bool) (k : Nat) (s : Core) : Option Core :=
  if s.caller k = .registering then
    if rpcIdRespMax ≤ (cfg.app k).expRespMsgId ∨ createOk = false then
      some ((s.touch k).setCaller k .failing)
    else
      match findFree s.syncRspTable with
      | none =>
        some { (s.touch k).setCaller k .failing with
          sem := Function.update s.sem k (.live false) }
      | some i =>
        some { (s.touch k).setCaller k .queueing with
          sem := Function.update s.sem k (.live false)
          syncRspTable := s.syncRspTable.set i ⟨s.uidOf k, some k⟩ }
  else none

/-- `h_queue_send(rpc_tx_q, ..)`, which blocks while the queue is full. -/
def queueTx (ok : Bool) (k : Nat) (s : Core) : Option Core :=
  if s.caller k = .queueing then
    if ok then
      if s.rpcTxQOpen = true ∧ s.rpcTxQ.length < rpcTxQueueSize then
        some { s.setCaller k .indicating with rpcTxQ := s.rpcTxQ ++ [k] }
      else none
    else some (s.setCaller k .failing)
  else none

/-- `fail_req` of `rpc_send_req`, and `RPC_SEND_REQ`, which reads `req->msg_id` behind it. -/
def failReq (k : Nat) (s : Core) : Option Core :=
  if s.caller k = .failing then
    some { (((s.touch k).free k).touch k).setCaller k .failed with
      sem := if s.sem k = .absent then s.sem else Function.update s.sem k .deleted }
  else none

/-- `rpc_tx_ind`. -/
def rpcTxInd (cfg : Config) (k : Nat) (s : Core) : Option Core :=
  if s.caller k = .indicating then
    some { s.setCaller k .returned with
      rpcTxSem := min (s.rpcTxSem + 1) (cfg.maxSync + cfg.maxAsync) }
  else none

/-- `RPC_DECODE_RSP_IF_NOT_ASYNC` reads `req->rpc_rsp_cb` behind `rpc_send_req`. -/
def readRspCb (cfg : Config) (k : Nat) (s : Core) : Option Core :=
  if s.caller k = .returned then
    some ((s.touch k).setCaller k (if (cfg.app k).async then .finished none else .lookup))
  else none

/-- `wait_for_sync_response` up to `h_sem_take`. -/
def lookupSem (cfg : Config) (k : Nat) (s : Core) : Option Core :=
  if s.caller k = .lookup then
    if rpcIdRespMax ≤ (cfg.app k).expRespMsgId then
      some ((s.touch k).setCaller k (.freeing none))
    else
      match find s.syncRspTable (s.uidOf k) with
      | none => some ((s.touch k).setCaller k (.freeing none))
      | some i =>
        some ((s.touch k).setCaller k
          (.waiting i ((s.syncRspTable[i]?).bind (·.item))))
  else none

/-- `h_sem_take` returns with the semaphore. -/
def takeSem (k : Nat) (s : Core) : Option Core :=
  match s.caller k with
  | .waiting i (some j) =>
    if s.sem j = .live true then
      some { s.setCaller k (.taken i true) with sem := Function.update s.sem j (.live false) }
    else none
  | _ => none

/-- `h_sem_take` returns with a timeout. -/
def semTimeout (k : Nat) (s : Core) : Option Core :=
  match s.caller k with
  | .waiting i sem =>
    if (sem.map s.sem) = some (.live true) then none
    else some (s.setCaller k (.taken i false))
  | _ => none

def deleteSem (sem : Nat → Sem) : Option Nat → Nat → Sem
  | none => sem
  | some j => Function.update sem j .deleted

/-- The end of `wait_for_sync_response`: the semaphore of the entry is deleted and the entry
cleared. -/
def clearSync (k : Nat) (s : Core) : Option Core :=
  match s.caller k with
  | .taken i ok =>
    some { s.setCaller k (if ok then .receiving else .freeing none) with
      sem := deleteSem s.sem ((s.syncRspTable[i]?).bind (·.item))
      syncRspTable := s.syncRspTable.set i ⟨0, none⟩ }
  | _ => none

/-- `h_queue_recv(rpc_rx_q, ..)` of `get_response`. -/
def recvRx (k : Nat) (s : Core) : Option Core :=
  if s.caller k = .receiving then
    if s.rpcRxQOpen then
      match s.rpcRxQ with
      | [] => none
      | resp :: rpcRxQ =>
        some { s.setCaller k (.freeing (some resp)) with rpcRxQ, woken := s.woken.erase k }
    else some (s.setCaller k (.freeing none))
  else none

/-- `h_free(app_req)` of `rpc_wait_and_parse_sync_resp`. -/
def freeReq (k : Nat) (s : Core) : Option Core :=
  match s.caller k with
  | .freeing resp => some (((s.touch k).free k).setCaller k (.finished resp))
  | _ => none

/-! ## Tables -/

/-- `is_sync_resp_sem_available` and `post_sync_resp_sem`. A semaphore that is `NULL` or
deleted is a fault. -/
def postSyncRespSem (resp : Resp) (s : Core) : Core :=
  match find s.syncRspTable resp.uid with
  | none => s
  | some i =>
    if resp.InRange then
      match (s.syncRspTable[i]?).bind (·.item) with
      | none => { s with fault := true }
      | some k =>
        match s.sem k with
        | .live given =>
          { s with
            sem := Function.update s.sem k (.live true)
            woken := if given then s.woken else s.woken ++ [k] }
        | _ => { s with fault := true }
    else s

/-- `h_timer_stop`, which does nothing to a handler that is running already. -/
def stopTimer (timer : Nat → TimerPc) : Option Nat → Nat → TimerPc
  | none => timer
  | some k => if timer k = .armed then Function.update timer k .over else timer

def freePtr (freed : Nat → Nat) : Option Nat → Nat → Nat
  | none => freed
  | some k => Function.update freed k (freed k + 1)

/-- `clear_async_resp_callback`; the pointer to the request stays in the entry. -/
def clearAsyncRespCallback (i : Nat) (s : Core) : Core :=
  match s.asyncRspTable[i]? with
  | none => s
  | some e =>
    if e.uid = 0 then s
    else { s with
      timer := stopTimer s.timer e.item.timerHdl
      freed := freePtr s.freed e.item.appReq
      asyncRspTable := s.asyncRspTable.set i ⟨0, none, none, e.item.appReq⟩ }

/-! ## The tx thread -/

def txTakeSem (s : Core) : Option Core :=
  if s.tx = .idle ∧ 0 < s.rpcTxSem then
    some { s with tx := .dequeuing, rpcTxSem := s.rpcTxSem - 1 }
  else none

def recvTx (s : Core) : Option Core :=
  if s.tx = .dequeuing then
    if s.rpcTxQOpen then
      match s.rpcTxQ with
      | [] => none
      | k :: rpcTxQ => some { s with tx := .composing k, rpcTxQ }
    else some { s with tx := .idle }
  else none

/-- `process_rpc_tx_msg` up to `h_calloc` for the packed message. -/
def composeReq (cfg : Config) (ok : Bool) (s : Core) : Option Core :=
  match s.tx with
  | .composing k =>
    some { s.touch k with
      tx := if !ok then .notifying k
        else if (cfg.app k).async then .starting k else .sending k }
  | _ => none

/-- `h_timer_create` and `h_timer_start`. -/
def startTimer (ok : Bool) (s : Core) : Option Core :=
  match s.tx with
  | .starting k =>
    if ok then
      some { s.touch k with tx := .registering k, timer := Function.update s.timer k .armed }
    else some { s.touch k with tx := .notifying k }
  | _ => none

/-- `set_async_resp_callback`. -/
def setAsyncRespCallback (cfg : Config) (s : Core) : Option Core :=
  match s.tx with
  | .registering k =>
    if rpcIdRespMax ≤ (cfg.app k).expRespMsgId then some { s.touch k with tx := .notifying k }
    else
      match findFree s.asyncRspTable with
      | none => some { s.touch k with tx := .notifying k }
      | some i =>
        some { s.touch k with
          tx := .sending k
          asyncRspTable := s.asyncRspTable.set i ⟨s.uidOf k, some k, some k, some k⟩ }
  | _ => none

/-- `h_serial_if_send`. -/
def serialSend (ok : Bool) (s : Core) : Option Core :=
  match s.tx with
  | .sending k => some { s with tx := if ok then .cleaning k else .notifying k }
  | _ => none

/-- The free hook of the application, at the end of a request that was sent. -/
def txCleanup (s : Core) : Option Core :=
  match s.tx with
  | .cleaning k => some { s.touch k with tx := .idle }
  | _ => none

/-- The failed response: to the callback, or into `rpc_rx_q`. Its uid stays 0. -/
def notifyFail (cfg : Config) (callocOk : Bool) (s : Core) : Option Core :=
  match s.tx with
  | .notifying k =>
    if !callocOk then some { s.touch k with tx := .failCleaning k }
    else if (cfg.app k).async then
      some { s.touch k with
        tx := .failCleaning k
        cbCalls := Function.update s.cbCalls k (s.cbCalls k + 1) }
    else if s.rpcRxQOpen = false then some { s.touch k with tx := .failCleaning k }
    else if s.rpcRxQ.length < rpcRxQueueSize then
      let resp : Resp := ⟨(cfg.app k).expRespMsgId, 0⟩
      some { s.touch k with tx := .posting k resp, rpcRxQ := s.rpcRxQ ++ [resp] }
    else none
  | _ => none

def txPostSync (s : Core) : Option Core :=
  match s.tx with
  | .posting k resp => some { s.postSyncRespSem resp with tx := .failCleaning k }
  | _ => none

/-- The free hook behind `fail_req2`. -/
def failCleanup (cfg : Config) (s : Core) : Option Core :=
  match s.tx with
  | .failCleaning k =>
    some { s.touch k with tx := if (cfg.app k).async then .scanning k else .idle }
  | _ => none

/-- An asynchronous request that is not in the table is freed. -/
def scanAsync (s : Core) : Option Core :=
  match s.tx with
  | .scanning k =>
    if Has s.asyncRspTable (s.uidOf k) then some { s.touch k with tx := .idle }
    else some { (s.touch k).free k with tx := .idle }
  | _ => none

/-! ## The rx thread -/

/-- A response message is received and parsed. -/
def recvResp (resp : Resp) (s : Core) : Option Core :=
  if s.rx = .idle then some { s with rx := .dispatching resp } else none

/-- `is_async_resp_callback_available`. -/
def isAsyncAvailable (s : Core) : Option Core :=
  match s.rx with
  | .dispatching resp =>
    if resp.InRange ∧ Has s.asyncRspTable resp.uid then some { s with rx := .calling resp }
    else some { s with rx := .queueing resp }
  | _ => none

/-- `call_async_resp_callback` up to the return of the callback. A callback that is `NULL` is
a fault. -/
def callAsync (s : Core) : Option Core :=
  match s.rx with
  | .calling resp =>
    match find s.asyncRspTable resp.uid with
    | none => some { s with rx := .idle }
    | some i =>
      match (s.asyncRspTable[i]?).bind (·.item.cb) with
      | none => some { s with fault := true }
      | some k =>
        some { s with
          rx := .clearing i, cbCalls := Function.update s.cbCalls k (s.cbCalls k + 1) }
  | _ => none

def rxClearAsync (s : Core) : Option Core :=
  match s.rx with
  | .clearing i => some { s.clearAsyncRespCallback i with rx := .idle }
  | _ => none

/-- `h_queue_send(rpc_rx_q, ..)` of `process_rpc_rx_msg`. -/
def queueRx (s : Core) : Option Core :=
  match s.rx with
  | .queueing resp =>
    if s.rpcRxQOpen = false then some { s with rx := .idle }
    else if s.rpcRxQ.length < rpcRxQueueSize then
      some { s with rx := .posting resp, rpcRxQ := s.rpcRxQ ++ [resp] }
    else none
  | _ => none

def rxPostSync (s : Core) : Option Core :=
  match s.rx with
  | .posting resp => some { s.postSyncRespSem resp with rx := .idle }
  | _ => none

/-! ## Timers -/

def expire (k : Nat) (s : Core) : Option Core :=
  if s.timer k = .armed then some { s with timer := Function.update s.timer k .expired } else none

/-- `rpc_async_timeout_handler` up to its `h_calloc`. -/
def timerRead (callocOk : Bool) (k : Nat) (s : Core) : Option Core :=
  if s.timer k = .expired then
    some { s.touch k with
      timer := Function.update s.timer k (if callocOk then .clearing else .over) }
  else none

/-- Its pass over the table, looking for the uid of the request. -/
def timerClear (k : Nat) (s : Core) : Option Core :=
  if s.timer k = .clearing then
    let s := match find s.asyncRspTable (s.uidOf k) with
      | none => s
      | some i => s.clearAsyncRespCallback i
    some { s with timer := Function.update s.timer k .calling }
  else none

def timerCall (k : Nat) (s : Core) : Option Core :=
  if s.timer k = .calling then
    some { s with
      timer := Function.update s.timer k .over
      cbCalls := Function.update s.cbCalls k (s.cbCalls k + 1) }
  else none

/-! ## De-initialization -/

def drainRx (s : Core) : Option Core :=
  if s.deinit = .none then
    some { s with deinit := .rxDrained, rpcRxQ := [], rpcRxQOpen := false }
  else none

/-- The requests in `rpc_tx_q` are freed; `rpc_tx_sem` is deleted. -/
def drainTx (s : Core) : Option Core :=
  if s.deinit = .rxDrained then
    some { s with
      deinit := .txDrained, rpcTxQ := [], rpcTxQOpen := false, rpcTxSem := 0
      freed := fun k => s.freed k + s.rpcTxQ.count k }
  else none

/-- `cleanup_sync_async_timer_table`. Every request that an entry points to is freed, whether
the entry is in use or not. -/
def cleanupTables (s : Core) : Option Core :=
  if s.deinit = .txDrained then
    some { s with
      deinit := .cleaned
      timer := fun k =>
        if s.timer k = .armed ∧ s.asyncRspTable.any (·.item.timerHdl == some k) then .over
        else s.timer k
      freed := fun k => s.freed k + s.asyncRspTable.countP (·.item.appReq == some k)
      asyncRspTable := s.asyncRspTable.map fun _ => ⟨0, none, none, none⟩
      sem := fun k => if s.syncRspTable.any (·.item == some k) then .deleted else s.sem k
      syncRspTable := s.syncRspTable.map fun _ => ⟨0, none⟩ }
  else none

def cancelThreads (s : Core) : Option Core :=
  if s.deinit = .cleaned then
    some { s with deinit := .cancelled, tx := .cancelled, rx := .cancelled }
  else none

/-! ## The system -/

inductive Action
  | sendReq
  | setSyncRespSem (k : Nat) (createOk : Bool)
  | queueTx (k : Nat) (ok : Bool)
  | failReq (k : Nat)
  | rpcTxInd (k : Nat)
  | readRspCb (k : Nat)
  | lookupSem (k : Nat)
  | takeSem (k : Nat)
  | semTimeout (k : Nat)
  | clearSync (k : Nat)
  | recvRx (k : Nat)
  | freeReq (k : Nat)
  | txTakeSem
  | recvTx
  | composeReq (ok : Bool)
  | startTimer (ok : Bool)
  | setAsyncRespCallback
  | serialSend (ok : Bool)
  | txCleanup
  | notifyFail (callocOk : Bool)
  | txPostSync
  | failCleanup
  | scanAsync
  | recvResp (resp : Resp)
  | isAsyncAvailable
  | callAsync
  | rxClearAsync
  | queueRx
  | rxPostSync
  | expire (k : Nat)
  | timerRead (k : Nat) (callocOk : Bool)
  | timerClear (k : Nat)
  | timerCall (k : Nat)
  | drainRx
  | drainTx
  | cleanupTables
  | cancelThreads

/-- One step; nothing happens after a fault. -/
def step (cfg : Config) (s : Core) (a : Action) : Option Core :=
  if s.fault then none
  else
    match a with
    | .sendReq => sendReq cfg s
    | .setSyncRespSem k createOk => setSyncRespSem cfg createOk k s
    | .queueTx k ok => queueTx ok k s
    | .failReq k => failReq k s
    | .rpcTxInd k => rpcTxInd cfg k s
    | .readRspCb k => readRspCb cfg k s
    | .lookupSem k => lookupSem cfg k s
    | .takeSem k => takeSem k s
    | .semTimeout k => semTimeout k s
    | .clearSync k => clearSync k s
    | .recvRx k => recvRx k s
    | .freeReq k => freeReq k s
    | .txTakeSem => txTakeSem s
    | .recvTx => recvTx s
    | .composeReq ok => composeReq cfg ok s
    | .startTimer ok => startTimer ok s
    | .setAsyncRespCallback => setAsyncRespCallback cfg s
    | .serialSend ok => serialSend ok s
    | .txCleanup => txCleanup s
    | .notifyFail callocOk => notifyFail cfg callocOk s
    | .txPostSync => txPostSync s
    | .failCleanup => failCleanup cfg s
    | .scanAsync => scanAsync s
    | .recvResp resp => recvResp resp s
    | .isAsyncAvailable => isAsyncAvailable s
    | .callAsync => callAsync s
    | .rxClearAsync => rxClearAsync s
    | .queueRx => queueRx s
    | .rxPostSync => rxPostSync s
    | .expire k => expire k s
    | .timerRead k callocOk => timerRead callocOk k s
    | .timerClear k => timerClear k s
    | .timerCall k => timerCall k s
    | .drainRx => drainRx s
    | .drainTx => drainTx s
    | .cleanupTables => cleanupTables s
    | .cancelThreads => cancelThreads s

end Core

end EspHosted.Rpc
