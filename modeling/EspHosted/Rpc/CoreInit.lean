import EspHosted.Lib.Machine
import EspHosted.Lib.Objects
import Mathlib.Logic.Function.Basic

/-!
# Initialization of the RPC core

`rpc_core_init` creates a semaphore, opens the serial interface, and creates two queues, a mutex
and two threads. `rpc_core_deinit` releases them, but does nothing while the library is inactive,
and `rpc_core_init` leaves that state at its very end. What the response tables hold is not part of
the model here, and neither is the result of `rpc_core_deinit`, which `rpc_core_init` ignores.

* `rpcCoreInit_failed`: where a failed call of `rpc_core_init` leaves off;
* `restored_of_reaches`: in a run in which only the first creation ever fails nothing is leaked or
  used after its end, and a failed call leaves no trace if and only if it was its first creation
  that failed.
-/

namespace EspHosted.Rpc

open Machine

/-- The pointers to what `rpc_core_init` creates. `serialQueue` is the queue in the object that
`serialLlIf` points to. -/
inductive Handle
  | rpcTxSem
  | serialHandle
  | readSemaphore
  | serialLlIf
  | serialQueue
  | rpcRxQ
  | rpcTxQ
  | uidMutex
  | rpcRxThreadHdl
  | rpcTxThreadHdl
  deriving DecidableEq

/-- The pointers to threads are never reset. -/
def Handle.IsThread (h : Handle) : Prop := h = .rpcRxThreadHdl ∨ h = .rpcTxThreadHdl

def Handle.all : List Handle :=
  [.rpcTxSem, .serialHandle, .readSemaphore, .serialLlIf, .serialQueue, .rpcRxQ, .rpcTxQ,
    .uidMutex, .rpcRxThreadHdl, .rpcTxThreadHdl]

theorem Handle.mem_all (h : Handle) : h ∈ Handle.all := by cases h <;> decide

inductive LibState
  | inactive
  | init
  | ready
  deriving DecidableEq

structure RpcLib where
  state : LibState
  handle : Handle → Option Nat
  objs : Objects

namespace RpcLib

/-! ## The operating system -/

def set (s : RpcLib) (h : Handle) (x : Option Nat) : RpcLib :=
  { s with handle := Function.update s.handle h x }

/-- A creation that fails leaves the pointer alone, or writes `NULL` to it (`clears`), depending on
the port. -/
def create (clears : Bool) (ok : Handle → Bool) (h : Handle) (s : RpcLib) : RpcLib :=
  if ok h then { s with handle := Function.update s.handle h (some s.objs.next)
                        objs := s.objs.create }
  else if clears then s.set h none else s

/-- The object is destroyed, and the pointer stays. -/
def delete (h : Handle) (s : RpcLib) : RpcLib :=
  match s.handle h with
  | none => s
  | some x => { s with objs := s.objs.destroy x }

def release (h : Handle) (s : RpcLib) : RpcLib := (s.delete h).set h none

/-! ## The serial interface -/

/-- `serial_ll_close`, which also frees the object it is for. -/
def serialLlClose (s : RpcLib) : RpcLib := (s.release .serialQueue).delete .serialLlIf

/-- `h_control_serial_platform_init`. When `serial_ll_open` fails it has closed the interface
already, and it is closed again. -/
def platformInit (clears : Bool) (ok : Handle → Bool) (s : RpcLib) : Bool × RpcLib :=
  let s := s.create clears ok .readSemaphore
  if ok .readSemaphore then
    let s := s.create true ok .serialLlIf
    if ok .serialLlIf then
      if ok .serialQueue then (true, s.create clears ok .serialQueue)
      else (false, (s.serialLlClose.serialLlClose.set .serialLlIf none).release .readSemaphore)
    else (false, s.release .readSemaphore)
  else (false, s)

def platformDeinit (s : RpcLib) : RpcLib :=
  (if s.handle .serialLlIf = none then s else s.serialLlClose.set .serialLlIf none).release
    .readSemaphore

/-- `h_serial_if_init`. -/
def serialInit (clears : Bool) (ok : Handle → Bool) (s : RpcLib) : Bool × RpcLib :=
  if s.handle .serialHandle = none then
    let s := s.create true ok .serialHandle
    if ok .serialHandle then
      let r := s.platformInit clears ok
      if r.1 then r else (false, r.2.release .serialHandle)
    else (false, s)
  else (true, s)

/-- `h_serial_if_deinit`. -/
def serialDeinit (s : RpcLib) : RpcLib :=
  if s.handle .serialHandle = none then s else s.platformDeinit.release .serialHandle

/-! ## The library -/

/-- `rpc_core_deinit`. The pointers to the threads stay. -/
def rpcCoreDeinit (s : RpcLib) : RpcLib :=
  if s.state = .inactive then s
  else
    let s := { s with state := .inactive }
    let s := ((s.release .rpcRxQ).release .rpcTxQ).release .rpcTxSem
    let s := (s.delete .rpcRxThreadHdl).delete .rpcTxThreadHdl
    (s.release .uidMutex).serialDeinit

/-- `spawn_rpc_threads`, and the end of `rpc_core_init`. -/
def spawnRpcThreads (clears : Bool) (ok : Handle → Bool) (s : RpcLib) : Bool × RpcLib :=
  let s := s.create clears ok .rpcRxThreadHdl
  if ok .rpcRxThreadHdl then
    let s := s.create clears ok .rpcTxThreadHdl
    (ok .rpcTxThreadHdl, s)
  else (false, s)

/-- Both queues of `rpc_core_init`. -/
def createQueues (clears : Bool) (ok : Handle → Bool) (s : RpcLib) : Bool × RpcLib :=
  let s := s.create clears ok .rpcRxQ
  if ok .rpcRxQ then
    let s := s.create clears ok .rpcTxQ
    (ok .rpcTxQ, s)
  else (false, s)

/-- `rpc_core_init`, with the creations that succeed during the call. -/
def rpcCoreInit (clears : Bool) (ok : Handle → Bool) (s : RpcLib) : Bool × RpcLib :=
  let s := s.create clears ok .rpcTxSem
  if ok .rpcTxSem then
    let r := s.serialInit clears ok
    if r.1 then
      let r := r.2.createQueues clears ok
      if r.1 then
        let s := r.2.create clears ok .uidMutex
        if ok .uidMutex then
          let r := s.spawnRpcThreads clears ok
          if r.1 then (true, { r.2 with state := .init })
          else (false, r.2.rpcCoreDeinit)
        else (false, s.rpcCoreDeinit)
      else (false, r.2.rpcCoreDeinit)
    else (false, r.2.rpcCoreDeinit)
  else (false, s.rpcCoreDeinit)

def rpcCoreStart (s : RpcLib) : RpcLib := { s with state := .ready }

def rpcCoreStop (s : RpcLib) : RpcLib :=
  if s.state = .inactive then s else { s with state := .init }

def boot : RpcLib := { state := .inactive, handle := fun _ => none, objs := .none }

inductive Call
  | init (ok : Handle → Bool)
  | deinit
  | start
  | stop

def step (clears : Bool) (s : RpcLib) : Call → Option RpcLib
  | .init ok => some (s.rpcCoreInit clears ok).2
  | .deinit => some s.rpcCoreDeinit
  | .start => some s.rpcCoreStart
  | .stop => some s.rpcCoreStop

/-! ## Objects that are held -/

variable {clears : Bool} {ok : Handle → Bool} {s s' : RpcLib} {hs : List Handle}

/-- The objects that exist are those that the pointers `hs` point to, one each. The other pointers
are `NULL`, but for those to threads. -/
structure Holds (s : RpcLib) (hs : List Handle) : Prop where
  owns : ∃ f : Handle → Nat, (∀ h ∈ hs, s.handle h = some (f h)) ∧ s.objs.Owns (hs.map f)
  null : ∀ h, h ∉ hs → ¬h.IsThread → s.handle h = none

namespace Holds

theorem some_of_mem (h : s.Holds hs) {p : Handle} (hMem : p ∈ hs) : ∃ x, s.handle p = some x := by
  obtain ⟨f, hf, -⟩ := h.owns
  exact ⟨f p, hf p hMem⟩

theorem fresh (h : s.Holds hs) : s.objs.stale = false := by
  obtain ⟨f, -, hOwns⟩ := h.owns
  exact hOwns.fresh

/-- No object exists that no pointer points to. -/
theorem found (h : s.Holds hs) {x : Nat} (hx : x ∈ s.objs.alive) : ∃ p, s.handle p = some x := by
  obtain ⟨f, hf, hOwns⟩ := h.owns
  obtain ⟨p, hp, rfl⟩ := List.mem_map.mp (hOwns.mem_iff.mp hx)
  exact ⟨p, hf p hp⟩

theorem setState (h : s.Holds hs) (state : LibState) : Holds { s with state } hs :=
  ⟨h.owns, h.null⟩

theorem perm {hs' : List Handle} (h : s.Holds hs) (hPerm : hs.Perm hs') : s.Holds hs' := by
  obtain ⟨f, hf, hOwns⟩ := h.owns
  exact ⟨⟨f, fun p hp => hf p (hPerm.mem_iff.mpr hp), hOwns.perm (hPerm.map f)⟩,
    fun p hp => h.null p (fun hOld => hp (hPerm.mem_iff.mp hOld))⟩

theorem create (clears : Bool) (h : s.Holds hs) {p : Handle} (hNew : p ∉ hs) (hOk : ok p = true) :
    (s.create clears ok p).Holds (p :: hs) := by
  unfold RpcLib.create
  rw [if_pos hOk]
  obtain ⟨f, hf, hOwns⟩ := h.owns
  have hOld (q : Handle) (hq : q ∈ hs) : q ≠ p := fun hEq => hNew (hEq ▸ hq)
  refine ⟨⟨Function.update f p s.objs.next, ?_, ?_⟩, ?_⟩
  · intro q hq
    dsimp only
    rcases List.mem_cons.mp hq with rfl | hMem
    · rw [Function.update_self, Function.update_self]
    · rw [Function.update_of_ne (hOld q hMem), Function.update_of_ne (hOld q hMem), hf q hMem]
  · have hMap : hs.map (Function.update f p s.objs.next) = hs.map f :=
      List.map_congr_left fun q hq => Function.update_of_ne (hOld q hq) _ _
    rw [List.map_cons, Function.update_self, hMap]
    exact hOwns.create
  · intro q hq hThread
    have hNot := not_or.mp (List.mem_cons.not.mp hq)
    dsimp only
    rw [Function.update_of_ne hNot.1]
    exact h.null q hNot.2 hThread

theorem delete_eq {p : Handle} {x : Nat} (hp : s.handle p = some x) :
    s.delete p = { s with objs := s.objs.destroy x } := by
  unfold RpcLib.delete
  rw [hp]

/-- An object is destroyed, and its pointer reset, unless it is one to a thread. -/
theorem drop (h : s.Holds hs) {p : Handle} (hMem : p ∈ hs) (hEnd : s'.objs = (s.delete p).objs)
    (hSame : ∀ q, q ≠ p → s'.handle q = s.handle q) (hNull : p.IsThread ∨ s'.handle p = none) :
    s'.Holds (hs.erase p) := by
  obtain ⟨f, hf, hOwns⟩ := h.owns
  have hNodup : hs.Nodup := List.Nodup.of_map f hOwns.nodup
  refine ⟨⟨f, ?_, ?_⟩, ?_⟩
  · intro q hq
    obtain ⟨hNe, hq⟩ := (List.Nodup.mem_erase_iff hNodup).mp hq
    rw [hSame q hNe, hf q hq]
  · rw [hEnd, delete_eq (hf p hMem)]
    exact (hOwns.perm ((List.perm_cons_erase hMem).map f)).destroy
  · intro q hq hThread
    by_cases hEq : q = p
    · subst hEq
      exact hNull.resolve_left hThread
    · rw [hSame q hEq]
      exact h.null q (fun hOld => hq ((List.Nodup.mem_erase_iff hNodup).mpr ⟨hEq, hOld⟩)) hThread

theorem delete_handle (p q : Handle) : (s.delete p).handle q = s.handle q := by
  unfold RpcLib.delete
  split <;> rfl

theorem release (h : s.Holds hs) {p : Handle} (hMem : p ∈ hs) :
    (s.release p).Holds (hs.erase p) := by
  refine h.drop hMem rfl ?_ (Or.inr (Function.update_self ..))
  intro q hNe
  exact (Function.update_of_ne hNe _ _).trans (delete_handle p q)

theorem delete (h : s.Holds hs) {p : Handle} (hMem : p ∈ hs) (hThread : p.IsThread) :
    (s.delete p).Holds (hs.erase p) :=
  h.drop hMem rfl (fun q _ => delete_handle p q) (Or.inl hThread)

end Holds

/-! ## The library holds everything, or nothing -/

theorem serialInit_holds (clears : Bool) (h : s.Holds [.rpcTxSem]) (hAll : ∀ p, ok p = true) :
    (s.serialInit clears ok).1 = true ∧ (s.serialInit clears ok).2.Holds
      [.serialQueue, .serialLlIf, .readSemaphore, .serialHandle, .rpcTxSem] := by
  have hNull : s.handle .serialHandle = none := h.null _ (by decide) (by nofun)
  unfold serialInit platformInit
  simp only [hNull, hAll, if_true]
  refine ⟨trivial, ?_⟩
  have hHandle := h.create true (p := .serialHandle) (by decide) (hAll _)
  have hSem := hHandle.create clears (p := .readSemaphore) (by decide) (hAll _)
  have hLl := hSem.create true (p := .serialLlIf) (by decide) (hAll _)
  exact hLl.create clears (by decide) (hAll _)

/-- A successful call of `rpc_core_init`. -/
theorem rpcCoreInit_holds (clears : Bool) (h : s.Holds []) (hAll : ∀ p, ok p = true) :
    (s.rpcCoreInit clears ok).2.state = .init ∧ (s.rpcCoreInit clears ok).2.Holds Handle.all := by
  have hSem := h.create clears (p := .rpcTxSem) (by decide) (hAll _)
  obtain ⟨hRet, hSerial⟩ := serialInit_holds clears hSem hAll
  unfold rpcCoreInit createQueues spawnRpcThreads
  simp only [hRet, hAll, if_true]
  refine ⟨trivial, Holds.setState ?_ _⟩
  have hRxQ := hSerial.create clears (p := .rpcRxQ) (by decide) (hAll _)
  have hTxQ := hRxQ.create clears (p := .rpcTxQ) (by decide) (hAll _)
  have hMutex := hTxQ.create clears (p := .uidMutex) (by decide) (hAll _)
  have hRx := hMutex.create clears (p := .rpcRxThreadHdl) (by decide) (hAll _)
  have hTx := hRx.create clears (p := .rpcTxThreadHdl) (by decide) (hAll _)
  exact hTx.perm (by decide)

theorem serialDeinit_holds
    (h : s.Holds [.serialHandle, .readSemaphore, .serialLlIf, .serialQueue]) :
    s.serialDeinit.Holds [] := by
  obtain ⟨x, hHandle⟩ := h.some_of_mem (p := .serialHandle) (by decide)
  obtain ⟨y, hLl⟩ := h.some_of_mem (p := .serialLlIf) (by decide)
  have hClose := (h.release (p := .serialQueue) (by decide)).release (p := .serialLlIf) (by decide)
  have hSem := hClose.release (p := .readSemaphore) (by decide)
  unfold serialDeinit platformDeinit
  rw [if_neg (by rw [hHandle]; nofun), if_neg (by rw [hLl]; nofun)]
  exact hSem.release (p := .serialHandle) (by decide)

/-- `rpc_core_deinit` of a library that was initialized. -/
theorem rpcCoreDeinit_holds (hState : s.state ≠ .inactive) (h : s.Holds Handle.all) :
    s.rpcCoreDeinit.Holds [] := by
  unfold rpcCoreDeinit
  rw [if_neg hState]
  have hRxQ := (h.setState .inactive).release (p := .rpcRxQ) (by decide)
  have hTxQ := hRxQ.release (p := .rpcTxQ) (by decide)
  have hSem := hTxQ.release (p := .rpcTxSem) (by decide)
  have hRx := hSem.delete (p := .rpcRxThreadHdl) (by decide) (Or.inl rfl)
  have hTx := hRx.delete (p := .rpcTxThreadHdl) (by decide) (Or.inr rfl)
  have hMutex := hTx.release (p := .uidMutex) (by decide)
  exact serialDeinit_holds hMutex

/-! ## Calls that fail -/

/-- What the steps of `rpc_core_init` behind the first creation leave alone. -/
def KeepsSem (s t : RpcLib) : Prop := t.state = s.state ∧ t.handle .rpcTxSem = s.handle .rpcTxSem

namespace KeepsSem

variable {t : RpcLib}

theorem refl (s : RpcLib) : KeepsSem s s := ⟨rfl, rfl⟩

theorem set (h : KeepsSem s t) {p : Handle} (hNe : Handle.rpcTxSem ≠ p) (x : Option Nat) :
    KeepsSem s (t.set p x) :=
  ⟨h.1, (Function.update_of_ne hNe _ _).trans h.2⟩

theorem create (clears : Bool) (ok : Handle → Bool) (h : KeepsSem s t) {p : Handle}
    (hNe : Handle.rpcTxSem ≠ p) : KeepsSem s (t.create clears ok p) := by
  unfold RpcLib.create
  split
  · exact ⟨h.1, (Function.update_of_ne hNe _ _).trans h.2⟩
  · split
    · exact h.set hNe none
    · exact h

theorem delete (h : KeepsSem s t) (p : Handle) : KeepsSem s (t.delete p) := by
  unfold RpcLib.delete
  split
  · exact h
  · exact h

theorem release (h : KeepsSem s t) {p : Handle} (hNe : Handle.rpcTxSem ≠ p) :
    KeepsSem s (t.release p) :=
  (h.delete p).set hNe none

theorem serialLlClose (h : KeepsSem s t) : KeepsSem s t.serialLlClose :=
  (h.release (p := .serialQueue) nofun).delete _

theorem platformInit (clears : Bool) (ok : Handle → Bool) (h : KeepsSem s t) :
    KeepsSem s (t.platformInit clears ok).2 := by
  have hSem := h.create clears ok (p := .readSemaphore) nofun
  have hLl := hSem.create true ok (p := .serialLlIf) nofun
  unfold RpcLib.platformInit
  split
  · split
    · split
      · exact hLl.create clears ok nofun
      · have hClosed := hLl.serialLlClose.serialLlClose.set (p := .serialLlIf) nofun none
        exact hClosed.release (p := .readSemaphore) nofun
    · exact hLl.release (p := .readSemaphore) nofun
  · exact hSem

theorem serialInit (clears : Bool) (ok : Handle → Bool) (h : KeepsSem s t) :
    KeepsSem s (t.serialInit clears ok).2 := by
  have hHandle := h.create true ok (p := .serialHandle) nofun
  have hPlatform := hHandle.platformInit clears ok
  unfold RpcLib.serialInit
  split
  · split
    · dsimp only
      split
      · exact hPlatform
      · exact hPlatform.release nofun
    · exact hHandle
  · exact h

theorem createQueues (clears : Bool) (ok : Handle → Bool) (h : KeepsSem s t) :
    KeepsSem s (t.createQueues clears ok).2 := by
  have hRxQ := h.create clears ok (p := .rpcRxQ) nofun
  unfold RpcLib.createQueues
  split
  · exact hRxQ.create clears ok nofun
  · exact hRxQ

theorem spawnRpcThreads (clears : Bool) (ok : Handle → Bool) (h : KeepsSem s t) :
    KeepsSem s (t.spawnRpcThreads clears ok).2 := by
  have hRx := h.create clears ok (p := .rpcRxThreadHdl) nofun
  unfold RpcLib.spawnRpcThreads
  split
  · exact hRx.create clears ok nofun
  · exact hRx

theorem serialDeinit (h : KeepsSem s t) : KeepsSem s t.serialDeinit := by
  unfold RpcLib.serialDeinit platformDeinit
  split
  · exact h
  · refine KeepsSem.release (p := .serialHandle) (KeepsSem.release (p := .readSemaphore) ?_ nofun)
      nofun
    split
    · exact h
    · exact h.serialLlClose.set (p := .serialLlIf) nofun none

end KeepsSem

/-- `free_bufs` is reached with the semaphore, if it could be created. -/
theorem rpcCoreInit_failed (hFail : (s.rpcCoreInit clears ok).1 = false) :
    ∃ t, (s.rpcCoreInit clears ok).2 = t.rpcCoreDeinit ∧
      KeepsSem (s.create clears ok .rpcTxSem) t ∧
      (ok .rpcTxSem = false → t = s.create clears ok .rpcTxSem) := by
  have hStart := KeepsSem.refl (s.create clears ok .rpcTxSem)
  have hSerial := hStart.serialInit clears ok
  have hQueues := hSerial.createQueues clears ok
  have hMutex := hQueues.create clears ok (p := .uidMutex) nofun
  have hThreads := hMutex.spawnRpcThreads clears ok
  unfold rpcCoreInit at hFail ⊢
  by_cases hSem : ok .rpcTxSem = true
  · have hNot (t : RpcLib) : ok .rpcTxSem = false → t = s.create clears ok .rpcTxSem := by
      rw [hSem]
      nofun
    rw [if_pos hSem] at hFail ⊢
    dsimp only at hFail ⊢
    split
    · rename_i hSerialOk
      rw [if_pos hSerialOk] at hFail
      split
      · rename_i hQueuesOk
        rw [if_pos hQueuesOk] at hFail
        split
        · rename_i hMutexOk
          rw [if_pos hMutexOk] at hFail
          split
          · rename_i hThreadsOk
            rw [if_pos hThreadsOk] at hFail
            cases hFail
          · exact ⟨_, rfl, hThreads, hNot _⟩
        · exact ⟨_, rfl, hMutex, hNot _⟩
      · exact ⟨_, rfl, hQueues, hNot _⟩
    · exact ⟨_, rfl, hSerial, hNot _⟩
  · rw [if_neg hSem]
    exact ⟨_, rfl, hStart, fun _ => rfl⟩

theorem release_handle (p : Handle) : (s.release p).handle p = none :=
  Function.update_self ..

theorem release_state (p : Handle) : (s.release p).state = s.state := by
  unfold RpcLib.release RpcLib.delete
  split <;> rfl

theorem create_handle {p : Handle} (hOk : ok p = true) :
    (s.create clears ok p).handle p = some s.objs.next := by
  unfold RpcLib.create
  rw [if_pos hOk]
  exact Function.update_self ..

theorem create_state (p : Handle) : (s.create clears ok p).state = s.state := by
  unfold RpcLib.create
  split
  · rfl
  · split <;> rfl

/-- The pointers, and the objects that exist, are as they were. -/
structure Restored (s t : RpcLib) : Prop where
  handle : t.handle = s.handle
  alive : t.objs.alive = s.objs.alive
  fresh : t.objs.stale = s.objs.stale

/-! ## Sequences of calls -/

/-- `rpc_core_init` is called while the library is inactive, and if one of its creations fails, it
is the first one. `rpc_core_start` is called after `rpc_core_init`. -/
def FirstFails (s : RpcLib) : Call → Prop
  | .init ok => s.state = .inactive ∧ ((∀ p ∈ Handle.all, ok p = true) ∨ ok .rpcTxSem = false)
  | .start => s.state ≠ .inactive
  | .deinit | .stop => True

instance (s : RpcLib) (c : Call) : Decidable (FirstFails s c) := by
  unfold FirstFails
  split <;> infer_instance

/-- An inactive library holds nothing, and one that was initialized everything. -/
def Steady (s : RpcLib) : Prop :=
  s.Holds (if s.state = .inactive then [] else Handle.all)

theorem steady_boot : Steady boot where
  owns := ⟨fun _ => 0, nofun, .none⟩
  null := fun _ _ _ => rfl

theorem Steady.inactive (h : s.Steady) (hState : s.state = .inactive) : s.Holds [] := by
  unfold Steady at h
  rwa [if_pos hState] at h

theorem Steady.active (h : s.Steady) (hState : s.state ≠ .inactive) : s.Holds Handle.all := by
  unfold Steady at h
  rwa [if_neg hState] at h

theorem Steady.of_inactive (hState : s.state = .inactive) (h : s.Holds []) : s.Steady := by
  unfold Steady
  rwa [if_pos hState]

theorem Steady.of_active (hState : s.state ≠ .inactive) (h : s.Holds Handle.all) : s.Steady := by
  unfold Steady
  rwa [if_neg hState]

theorem rpcCoreDeinit_inactive (hState : s.state = .inactive) : s.rpcCoreDeinit = s :=
  if_pos hState

/-- A semaphore that was `NULL` and could not be created is `NULL` still. -/
theorem create_failed {p : Handle} (hNull : s.handle p = none) (hFail : ok p = false) :
    s.create clears ok p = s := by
  unfold RpcLib.create
  rw [hFail, if_neg Bool.false_ne_true]
  split
  · unfold RpcLib.set
    rw [← hNull, Function.update_eq_self]
  · rfl

theorem rpcCoreInit_first (h : s.Holds []) (hState : s.state = .inactive)
    (hFail : ok .rpcTxSem = false) : (s.rpcCoreInit clears ok).2 = s := by
  have hNull : s.handle .rpcTxSem = none := h.null _ (by decide) nofun
  unfold rpcCoreInit
  rw [create_failed hNull hFail, hFail]
  exact rpcCoreDeinit_inactive hState

/-- Behind `rpc_core_deinit` the library is inactive, and its semaphore gone if it was not. -/
theorem rpcCoreDeinit_keeps (hState : s.state ≠ .inactive) :
    s.rpcCoreDeinit.state = .inactive ∧ s.rpcCoreDeinit.handle .rpcTxSem = none := by
  let u : RpcLib := ((({ s with state := .inactive } : RpcLib).release .rpcRxQ).release
    .rpcTxQ).release .rpcTxSem
  have hState' : u.state = .inactive := by simp only [u, release_state]
  have hSem : u.handle .rpcTxSem = none := release_handle .rpcTxSem
  have hThreads := ((KeepsSem.refl u).delete .rpcRxThreadHdl).delete .rpcTxThreadHdl
  have hEnd := (hThreads.release (p := .uidMutex) nofun).serialDeinit
  unfold rpcCoreDeinit
  rw [if_neg hState]
  exact ⟨hEnd.1.trans hState', hEnd.2.trans hSem⟩

theorem step_steady {c : Call} (h : s.Steady) (hFirst : FirstFails s c)
    (hStep : step clears s c = some s') : s'.Steady := by
  cases c with
  | init ok =>
    obtain ⟨hState, hOk⟩ := hFirst
    have hHolds := h.inactive hState
    cases hStep
    rcases hOk with hAll | hFail
    · obtain ⟨hInit, hNew⟩ := rpcCoreInit_holds clears hHolds fun p => hAll p p.mem_all
      exact .of_active (by rw [hInit]; nofun) hNew
    · rwa [rpcCoreInit_first hHolds hState hFail]
  | deinit =>
    cases hStep
    by_cases hState : s.state = .inactive
    · rwa [rpcCoreDeinit_inactive hState]
    · exact .of_inactive (rpcCoreDeinit_keeps hState).1
        (rpcCoreDeinit_holds hState (h.active hState))
  | start =>
    cases hStep
    exact .of_active nofun ((h.active hFirst).setState .ready)
  | stop =>
    cases hStep
    unfold rpcCoreStop
    split
    · exact h
    · rename_i hState
      exact .of_active nofun ((h.active hState).setState .init)

/-- Nothing is leaked, nothing is used after its end, and a call that fails leaves no trace if and
only if the library was inactive and the first creation failed. -/
structure Restores (clears : Bool) (s : RpcLib) : Prop where
  held : ∀ x ∈ s.objs.alive, ∃ p, s.handle p = some x
  fresh : s.objs.stale = false
  idle : s.state = .inactive → s.objs.alive = []
  failed : ∀ ok, (s.rpcCoreInit clears ok).1 = false →
    (s.Restored (s.rpcCoreInit clears ok).2 ↔ s.state = .inactive ∧ ok .rpcTxSem = false)

theorem Steady.restores (clears : Bool) (h : s.Steady) : s.Restores clears := by
  refine ⟨fun x hx => Holds.found h hx, Holds.fresh h, ?_, ?_⟩
  · intro hState
    obtain ⟨f, -, hOwns⟩ := (h.inactive hState).owns
    exact hOwns.alive.eq_nil
  · intro ok hFail
    obtain ⟨t, hEnd, hKeeps, -⟩ := rpcCoreInit_failed hFail
    constructor
    · intro hRestored
      by_cases hState : s.state = .inactive
      · refine ⟨hState, ?_⟩
        by_contra hOk
        have hOk : ok .rpcTxSem = true := by simpa using hOk
        have hNull : s.handle .rpcTxSem = none :=
          (h.inactive hState).null .rpcTxSem (by decide) nofun
        have hSem : t.handle .rpcTxSem = some s.objs.next := by
          rw [hKeeps.2, create_handle hOk]
        have hInactive : t.state = .inactive := by rw [hKeeps.1, create_state, hState]
        have hSame := congrFun hRestored.handle .rpcTxSem
        rw [hEnd, rpcCoreDeinit_inactive hInactive, hSem, hNull] at hSame
        cases hSame
      · obtain ⟨x, hSem⟩ := (h.active hState).some_of_mem (p := .rpcTxSem) (by decide)
        have hActive : t.state ≠ .inactive := by rwa [hKeeps.1, create_state]
        have hSame := congrFun hRestored.handle .rpcTxSem
        rw [hEnd, (rpcCoreDeinit_keeps hActive).2, hSem] at hSame
        cases hSame
    · rintro ⟨hState, hFirst⟩
      rw [rpcCoreInit_first (h.inactive hState) hState hFirst]
      exact ⟨rfl, rfl, rfl⟩

theorem restored_of_reaches (clears : Bool) {s : RpcLib}
    (hRun : Reaches (step clears) FirstFails boot s) : s.Restores clears :=
  Steady.restores clears (hRun.invariant steady_boot fun _ _ _ h hFirst hStep =>
    step_steady h hFirst hStep)

/-- A life of the library, and a call that gets no semaphore. -/
theorem restored_again :
    ∃ s, Reaches (step true) FirstFails boot s ∧ s.objs.next = 10 ∧ s.Restores true := by
  have hRun : (runGuarded (step true) FirstFails boot [.init fun _ => true, .start, .stop, .deinit,
      .init fun p => p != .rpcTxSem]).map (fun s => s.objs.next) = some 10 := by decide +kernel
  obtain ⟨s, hs, hNext⟩ := Option.map_eq_some_iff.mp hRun
  exact ⟨s, .of_run hs, hNext, restored_of_reaches true (.of_run hs)⟩

/-- The serial interface cannot be opened: the semaphore stays. -/
theorem not_restored :
    ¬∀ clears ok s, Reaches (step clears) anyStep boot s → (s.rpcCoreInit clears ok).1 = false →
      s.Restored (s.rpcCoreInit clears ok).2 := by
  intro h
  have hAlive := (h true (fun p => p != .serialHandle) boot .start (by decide)).alive
  have hLeak : (boot.rpcCoreInit true fun p => p != .serialHandle).2.objs.alive = [0] := by decide
  rw [hLeak] at hAlive
  cases hAlive

end RpcLib

end EspHosted.Rpc
