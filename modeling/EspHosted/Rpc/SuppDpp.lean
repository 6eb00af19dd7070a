import EspHosted.Lib.Courier
import EspHosted.Lib.Machine
import EspHosted.Lib.Registry
import Mathlib.Algebra.GroupWithZero.Nat

/-!
# The callback thread of the supplicant's DPP events

`rpc_event_callback` copies an event and sends it to a queue, and a thread takes it from there,
calls the callback of the application and frees the copy. `rpc_supp_cb_thread_start` creates the
queue and the thread, and `rpc_supp_cb_thread_stop` deletes the thread wherever it is, drains the
queue and deletes it. Starts and stops come from any task and from within the callback, and every
step of theirs can fall between steps of the others.

* `inv_step`: what the orderly steps keep;
* `thread_goes_on`: between calls the thread gets nearer to every accepted event;
* `callback_thread`: along runs whose steps are all `Orderly`, blocks are freed once, no deleted
  queue is used, nothing is left after a stop, and events are delivered once and in order.
-/

namespace EspHosted.Rpc.SuppDpp

open Machine Registry Courier

/-! ## Model -/

def rpcSuppCbQueueSize : Nat := 5

inductive DppEvent
  | uriReady
  | cfgRecvd
  | fail
  deriving DecidableEq

/-- `supp_cb_queue_item_t`, with a number of its own, which is also that of the block of
`dpp_data`. -/
structure Item where
  serial : Nat
  dppEvent : DppEvent
  dppReason : Int
  dppData : Option Nat
  deriving DecidableEq

/-- Where `rpc_supp_thread` is: before `h_queue_recv`, in it, with an item before the callback, in
the callback, and behind it. -/
inductive ThreadPc
  | waiting
  | receiving (q : Nat)
  | taken (i : Item)
  | inCallback (i : Item)
  | done (i : Item)
  deriving DecidableEq

/-- A task of the application, or the callback in a thread. -/
inductive Caller
  | task (n : Nat)
  | callback (t : Nat)
  deriving DecidableEq

/-- The next step of a start or a stop. -/
inductive CallPc
  | startQueue
  | startThread
  | startDelete
  | startClear
  | stopThread
  | stopCount
  | stopDrain (numItems : Nat)
  | stopClear
  deriving DecidableEq

/-- Where `rpc_event_callback` is with a DPP event: nowhere, behind the test of the queue, and in
`h_queue_send`. -/
inductive EventPc
  | idle
  | tested (i : Item)
  | sending (q : Nat) (i : Item)
  deriving DecidableEq

def ThreadPc.hand : ThreadPc → List Item
  | .waiting | .receiving _ => []
  | .taken i | .inCallback i | .done i => [i]

/-- The item for which the callback was called or is not needed. -/
def ThreadPc.reached : ThreadPc → List Item
  | .waiting | .receiving _ | .taken _ => []
  | .inCallback i | .done i => [i]

def EventPc.ready : EventPc → List Item
  | .idle => []
  | .tested i | .sending _ i => [i]

structure State where
  rpcSuppCbThreadHdl : Option Nat
  rpcSuppCbThreadQ : Option Nat
  /-- Whether `dpp_evt_cb` is set. -/
  dppEvtCb : Bool
  queues : List (Nat × List Item)
  threads : List (Nat × ThreadPc)
  calls : List (Caller × CallPc)
  event : EventPc
  /-- How many events were sent since the queue was created or its items were counted. -/
  sent : Nat
  /-- The last call was a stop, and it is over. -/
  stopped : Bool
  nextHandle : Nat
  log : Log Item

def boot : State where
  rpcSuppCbThreadHdl := none
  rpcSuppCbThreadQ := none
  dppEvtCb := false
  queues := []
  threads := []
  calls := []
  event := .idle
  sent := 0
  stopped := false
  nextHandle := 0
  log := .empty

def goto (c : Caller) (pc : CallPc) (s : State) : State := { s with calls := put s.calls c pc }

def startEnds (c : Caller) (s : State) : State := { s with calls := drop s.calls c }

def stopEnds (c : Caller) (s : State) : State :=
  { s with calls := drop s.calls c, stopped := true }

/-- `h_queue_delete` of `rpc_supp_cb_thread_q`, if it succeeds. Items in it are lost. -/
def deleteQueue (s : State) : State :=
  match s.rpcSuppCbThreadQ with
  | none => s
  | some q => { s with queues := drop s.queues q }

/-- `h_thread_delete`, if it succeeds. A call from the callback ends with its thread. -/
def deleteThread (t : Nat) (s : State) : State :=
  { s with threads := drop s.threads t, calls := drop s.calls (.callback t) }

/-- One round of the loop that removes the items. -/
def drainOne (s : State) : State :=
  match s.rpcSuppCbThreadQ with
  | none => s
  | some q =>
    match find s.queues q with
    | some (i :: rest) =>
      { s with
        queues := put s.queues q rest
        log := { s.log.free i.dppData with drained := s.log.drained ++ [i] } }
    | _ => s

/-- A step of a start or a stop. `ok` is what the function of the OSAL returns that it calls. -/
def callStep (c : Caller) (ok : Bool) (s : State) : CallPc → State
  | .startQueue =>
    match s.rpcSuppCbThreadQ with
    | some _ => goto c .startThread s
    | none =>
      if ok then goto c .startThread
        { s with
          queues := put s.queues s.nextHandle []
          rpcSuppCbThreadQ := some s.nextHandle
          sent := 0
          nextHandle := s.nextHandle + 1 }
      else startEnds c s
  | .startThread =>
    match s.rpcSuppCbThreadHdl with
    | some _ => startEnds c s
    | none =>
      if ok then startEnds c
        { s with
          threads := put s.threads s.nextHandle .waiting
          rpcSuppCbThreadHdl := some s.nextHandle
          nextHandle := s.nextHandle + 1 }
      else goto c .startDelete s
  -- the result of the deletion is ignored
  | .startDelete => goto c .startClear (if ok then deleteQueue s else s)
  | .startClear => startEnds c { s with rpcSuppCbThreadQ := none }
  | .stopThread =>
    match s.rpcSuppCbThreadHdl with
    | none => goto c .stopCount s
    | some t =>
      if ok then
        -- a thread that deletes itself does not come back
        if c = .callback t then { deleteThread t s with stopped := true }
        else goto c .stopCount { deleteThread t s with rpcSuppCbThreadHdl := none }
      else goto c .stopCount s
  | .stopCount =>
    match s.rpcSuppCbThreadQ with
    | none => stopEnds c s
    | some q => goto c (.stopDrain ((find s.queues q).getD []).length) { s with sent := 0 }
  | .stopDrain (numItems + 1) => goto c (.stopDrain numItems) (if ok then drainOne s else s)
  | .stopDrain 0 => if ok then goto c .stopClear (deleteQueue s) else stopEnds c s
  | .stopClear => stopEnds c { s with rpcSuppCbThreadQ := none }

/-- The item of an event; a failure has no data. -/
def newItem (e : DppEvent) (reason : Int) (serial : Nat) : Item :=
  match e with
  | .fail => ⟨serial, .fail, reason, none⟩
  | e => ⟨serial, e, 0, some serial⟩

/-- The test of the queue, and the copy of the data, for which `granted` says if there is memory. -/
def rpcEventCallback (e : DppEvent) (reason : Int) (granted : Bool) (s : State) : State :=
  if s.rpcSuppCbThreadQ = none ∨ (e ≠ .fail ∧ granted = false) then s
  else
    let i := newItem e reason s.log.next
    { s with event := .tested i, log := s.log.allocate i.dppData }

/-- `h_queue_send` reads the handle again. -/
def sendEnter (s : State) : EventPc → Option State
  | .tested i =>
    match s.rpcSuppCbThreadQ with
    | none => some { s with event := .idle }
    | some q => some { s with event := .sending q i }
  | .idle | .sending _ _ => none

/-- `h_queue_send` waits for room, or fails; its result is ignored. -/
def sendDone (ok : Bool) (s : State) : EventPc → Option State
  | .sending q i =>
    if ok then
      match find s.queues q with
      | none => none
      | some items =>
        if items.length < rpcSuppCbQueueSize then
          some { s with
            event := .idle
            sent := s.sent + 1
            queues := put s.queues q (items ++ [i])
            log := { s.log with accepted := s.log.accepted ++ [i] } }
        else none
    else some { s with event := .idle }
  | .idle | .tested _ => none

inductive ThreadStep
  | enter
  | recv (ok : Bool)
  | callback
  | callbackReturns
  | free

def atPc (t : Nat) (pc : ThreadPc) (s : State) : State := { s with threads := put s.threads t pc }

/-- `dpp_evt_cb` is called if it is set, for a failure or with data. -/
def Heard (s : State) (i : Item) : Prop :=
  s.dppEvtCb = true ∧ (i.dppEvent = .fail ∨ i.dppData ≠ none)

instance (s : State) (i : Item) : Decidable (Heard s i) := inferInstanceAs (Decidable (_ ∧ _))

def rpcSuppThread (t : Nat) (s : State) : ThreadPc → ThreadStep → Option State
  | .waiting, .enter =>
    match s.rpcSuppCbThreadQ with
    | none => some s
    | some q => some (atPc t (.receiving q) s)
  | .receiving _, .recv false => some (atPc t .waiting s)
  | .receiving q, .recv true =>
    match find s.queues q with
    | some (i :: rest) => some (atPc t (.taken i) { s with queues := put s.queues q rest })
    | _ => none
  | .taken i, .callback =>
    if Heard s i then
      some (atPc t (.inCallback i) { s with log :=
        { s.log with delivered := s.log.delivered ++ [i] } })
    else
      some (atPc t (.done i) { s with log := { s.log with unheard := s.log.unheard ++ [i] } })
  | .inCallback i, .callbackReturns =>
    if find s.calls (.callback t) = none then some (atPc t (.done i) s) else none
  | .done i, .free => some (atPc t .waiting { s with log := s.log.free i.dppData })
  | _, _ => none

inductive Action
  | setCallback (set : Bool)
  | start (c : Caller)
  | stop (c : Caller)
  | call (c : Caller) (ok : Bool)
  | event (e : DppEvent) (reason : Int) (granted : Bool)
  | sendEnter
  | sendDone (ok : Bool)
  | thread (t : Nat) (a : ThreadStep)

/-- A callback can call while it runs. -/
def inCallback (s : State) : Caller → Bool
  | .task _ => true
  | .callback t =>
    match find s.threads t with
    | some (.inCallback _) => true
    | _ => false

def beginCall (s : State) (c : Caller) (pc : CallPc) : Option State :=
  if find s.calls c = none ∧ inCallback s c = true then
    some { goto c pc s with stopped := false }
  else none

def step (s : State) : Action → Option State
  | .setCallback set => some { s with dppEvtCb := set }
  | .start c => beginCall s c .startQueue
  | .stop c => beginCall s c .stopThread
  | .call c ok => (find s.calls c).map (callStep c ok s)
  | .event e reason granted =>
    if s.event = .idle then some (rpcEventCallback e reason granted s) else none
  | .sendEnter => sendEnter s s.event
  | .sendDone ok => sendDone ok s s.event
  | .thread t a => (find s.threads t).bind fun pc => rpcSuppThread t s pc a

/-! ## The contract -/

/-- An item is in a queue, or a thread has taken it and not called the callback yet. -/
def Pending (s : State) (i : Item) : Prop :=
  (∃ t, (t, ThreadPc.taken i) ∈ s.threads) ∨ ∃ p ∈ s.queues, i ∈ p.2

/-- An item that has the block is on its way. -/
def Owned (s : State) (b : Nat) : Prop :=
  (∃ p ∈ s.threads, ∃ i ∈ p.2.hand, i.dppData = some b) ∨
    (∃ p ∈ s.queues, ∃ i ∈ p.2, i.dppData = some b) ∨ ∃ i ∈ s.event.ready, i.dppData = some b

/-- A receive or a send on a queue has begun, or comes next in a stop. -/
def Using (s : State) (q : Nat) : Prop :=
  (∃ t, (t, ThreadPc.receiving q) ∈ s.threads) ∨ (∃ i, s.event = .sending q i) ∨
    (s.rpcSuppCbThreadQ = some q ∧ ∃ c n, (c, CallPc.stopDrain (n + 1)) ∈ s.calls)

structure Sound (s : State) : Prop where
  freed : ∀ b, s.log.frees b ≤ 1 ∧ (s.log.frees b ≠ 0 → b ∈ s.log.allocated) ∧
    (Owned s b ↔ b ∈ s.log.allocated ∧ s.log.frees b = 0)
  used : ∀ q, Using s q → ∃ items, (q, items) ∈ s.queues
  stopped : s.stopped = true → s.threads = [] ∧ s.queues = [] ∧ s.rpcSuppCbThreadHdl = none ∧
    s.rpcSuppCbThreadQ = none
  order : s.log.delivered.Sublist s.log.accepted
  once : (s.log.accepted.map Item.serial).Nodup
  complete : ∀ i ∈ s.log.accepted,
    i ∈ s.log.delivered ∨ i ∈ s.log.unheard ∨ i ∈ s.log.drained ∨ Pending s i
  /-- Between calls there is a thread for what is pending. -/
  served : s.calls = [] → ∀ i, Pending s i →
    ∃ t pc, s.rpcSuppCbThreadHdl = some t ∧ (t, pc) ∈ s.threads

/-- The steps of the thread. -/
def ThreadOnly (_ : State) (a : Action) : Prop := ∃ t x, a = .thread t x

/-- Every accepted item has reached its end. -/
def AllReached (s : State) : Prop :=
  ∀ i ∈ s.log.accepted, i ∈ s.log.delivered ∨ i ∈ s.log.unheard ∨ i ∈ s.log.drained

/-- Without another call the thread alone brings every accepted item to its end, and none of them is
drained. -/
def Finishes (s : State) : Prop :=
  ∃ t, Reaches step ThreadOnly s t ∧ t.log.accepted = s.log.accepted ∧
    t.log.drained = s.log.drained ∧ AllReached t

/-- The order at a step of a call. A thread is deleted by another one, while it has no item. Every
counted item is removed. A queue is deleted while no event is on its way to it, and none was sent
since it was created or its items were counted. Deletions succeed. -/
def CallOrderly (s : State) (ok : Bool) : Option CallPc → Prop
  | some .stopThread => ∀ t, s.rpcSuppCbThreadHdl = some t →
      ok = true ∧ ∀ pc, find s.threads t = some pc → pc.hand = []
  | some (.stopDrain (_ + 1)) => ok = true
  | some (.stopDrain 0) | some .startDelete => ok = true ∧ s.event = .idle ∧ s.sent = 0
  | _ => True

/-- Calls do not overlap. No event comes between the deletion of the queue and the clearing of its
handle. The sends of events with data succeed. -/
def Orderly (s : State) : Action → Prop
  | .setCallback _ | .sendEnter | .thread _ _ => True
  | .start _ | .stop _ => s.calls = []
  | .call c ok => CallOrderly s ok (find s.calls c)
  | .event _ _ _ => ∀ e ∈ s.calls, e.2 ≠ .startClear ∧ e.2 ≠ .stopClear
  | .sendDone ok => ok = true ∨ ∀ i ∈ s.event.ready, i.dppData = none

instance (s : State) (ok : Bool) : (pc : Option CallPc) → Decidable (CallOrderly s ok pc)
  | some .stopThread => inferInstanceAs (Decidable (∀ t ∈ s.rpcSuppCbThreadHdl,
      ok = true ∧ ∀ pc ∈ find s.threads t, pc.hand = []))
  | some (.stopDrain (_ + 1)) => inferInstanceAs (Decidable (ok = true))
  | some (.stopDrain 0) | some .startDelete => inferInstanceAs (Decidable (ok = true ∧
      s.event = .idle ∧ s.sent = 0))
  | none | some .startQueue | some .startThread | some .startClear | some .stopCount
  | some .stopClear => .isTrue trivial

instance (s : State) : (a : Action) → Decidable (Orderly s a)
  | .setCallback _ | .sendEnter | .thread _ _ => .isTrue trivial
  | .start _ | .stop _ => inferInstanceAs (Decidable (s.calls = []))
  | .call c ok => inferInstanceAs (Decidable (CallOrderly s ok (find s.calls c)))
  | .event _ _ _ => inferInstanceAs (Decidable (∀ e ∈ s.calls, _ ∧ _))
  | .sendDone ok => inferInstanceAs (Decidable (ok = true ∨ ∀ i ∈ s.event.ready, _))

/-! ## What orderly steps keep -/

/-- The only thread, queue and call. -/
structure View where
  thread : Option (Nat × ThreadPc)
  queue : Option (Nat × List Item)
  call : Option (Caller × CallPc)

def View.hand (v : View) : List Item := v.thread.elim [] fun e => e.2.hand

def View.reached (v : View) : List Item := v.thread.elim [] fun e => e.2.reached

def View.queued (v : View) : List Item := v.queue.elim [] Prod.snd

/-- The state has only what is in view. -/
structure Core (v : View) (threads : List (Nat × ThreadPc)) (hdl : Option Nat)
    (queues : List (Nat × List Item)) (calls : List (Caller × CallPc)) (event : EventPc)
    (log : Log Item) : Prop where
  threads : threads = v.thread.toList
  hdl : hdl = v.thread.map Prod.fst
  queues : queues = v.queue.toList
  calls : calls = v.call.toList
  receiving : ∀ t q, v.thread = some (t, .receiving q) → ∃ items, v.queue = some (q, items)
  callback : ∀ t pc, v.call = some (.callback t, pc) → ∃ i, v.thread = some (t, .inCallback i)
  tested : event ≠ .idle → v.queue ≠ none
  sending : ∀ q i, event = .sending q i → ∃ items, v.queue = some (q, items)
  carried : Carried Item.serial Item.dppData v.hand v.reached v.queued event.ready log

abbrev Seen (v : View) (s : State) : Prop :=
  Core v s.threads s.rpcSuppCbThreadHdl s.queues s.calls s.event s.log

/-- What there is at each step of a call: the thread, the queue, and the handle of the queue. -/
def Phase (pc : Option CallPc) (thread queue q : Option Nat) : Prop :=
  match pc with
  | none | some .startQueue | some .stopThread => thread.isSome = queue.isSome ∧ q = queue
  | some .startThread => queue ≠ none ∧ q = queue
  | some .startDelete | some (.stopDrain _) => thread = none ∧ queue ≠ none ∧ q = queue
  | some .startClear | some .stopClear => thread = none ∧ queue = none
  | some .stopCount => thread = none ∧ q = queue

/-- What can be in a queue that is about to be deleted: what was counted and not removed yet, and
what was sent since. -/
def Leftover (pc : Option CallPc) (thread : Option Nat) (items sent : Nat) : Prop :=
  match pc with
  | some .startThread => thread = none → items ≤ sent
  | some .startDelete => items ≤ sent
  | some (.stopDrain n) => items ≤ n + sent
  | _ => True

structure InView (v : View) (s : State) : Prop where
  seen : Seen v s
  phase : Phase (v.call.map Prod.snd) (v.thread.map Prod.fst) (v.queue.map Prod.fst)
    s.rpcSuppCbThreadQ
  leftover : Leftover (v.call.map Prod.snd) (v.thread.map Prod.fst) v.queued.length s.sent
  stopped : s.stopped = true → v.call = none ∧ v.thread = none ∧ v.queue = none

def Inv (s : State) : Prop := ∃ v, InView v s

theorem Core.no_call {v : View} {s : State} (h : Seen v s) (hCalls : s.calls = []) :
    v.call = none := by
  rw [h.calls] at hCalls
  exact Option.toList_eq_nil_iff.mp hCalls

theorem boot_inv : Inv boot := by
  refine ⟨⟨none, none, none⟩, ⟨rfl, rfl, rfl, rfl, ?_, ?_, ?_, ?_, .empty⟩, ⟨rfl, rfl⟩, trivial, ?_⟩
  · exact fun _ _ h => by cases h
  · exact fun _ _ h => by cases h
  · exact fun h => absurd rfl h
  · exact fun _ _ h => by cases h
  · exact fun h => by cases h

/-- While a queue exists its handle is the one that the others read. -/
theorem Phase.handle {pc : Option CallPc} {thread queue q : Option Nat}
    (h : Phase pc thread queue q) (hQueue : queue ≠ none) : q = queue := by
  unfold Phase at h
  split at h
  · exact h.2
  · exact h.2
  · exact h.2
  · exact h.2
  · exact h.2.2
  · exact h.2.2
  · exact absurd h.2 hQueue
  · exact absurd h.2 hQueue
  · exact h.2

/-- A thread exists only while the handle is exact. -/
theorem Phase.handle_of_thread {pc : Option CallPc} {thread queue q : Option Nat}
    (h : Phase pc thread queue q) (hThread : thread ≠ none) : q = queue := by
  unfold Phase at h
  split at h
  · exact h.2
  · exact h.2
  · exact h.2
  · exact h.2
  · exact h.2.2
  · exact h.2.2
  · exact absurd h.1 hThread
  · exact absurd h.1 hThread
  · exact h.2

theorem Leftover.of_le {pc : Option CallPc} {thread : Option Nat} {items items' sent : Nat}
    (h : Leftover pc thread items sent) (hLe : items' ≤ items) :
    Leftover pc thread items' sent := by
  unfold Leftover at h ⊢
  split
  · exact fun hNone => hLe.trans (h hNone)
  · exact hLe.trans h
  · exact hLe.trans h
  · trivial

/-- One more event is sent. -/
theorem Leftover.sent_one {pc : Option CallPc} {thread : Option Nat} {items sent : Nat}
    (h : Leftover pc thread items sent) : Leftover pc thread (items + 1) (sent + 1) := by
  unfold Leftover at h ⊢
  split
  · exact fun hNone => Nat.succ_le_succ (h hNone)
  · exact Nat.succ_le_succ h
  · exact Nat.succ_le_succ h
  · trivial

section Calls

variable {s : State} {thread : Option (Nat × ThreadPc)} {queue : Option (Nat × List Item)}
  {call : Option (Caller × CallPc)} {c : Caller} {pc : CallPc} {ok : Bool}

theorem Core.goto (h : Seen ⟨thread, queue, some (c, pc)⟩ s) (pc' : CallPc) :
    Seen ⟨thread, queue, some (c, pc')⟩ (goto c pc' s) where
  threads := h.threads
  hdl := h.hdl
  queues := h.queues
  calls := by
    show put s.calls c pc' = _
    rw [h.calls]
    exact put_single c pc pc'
  receiving := h.receiving
  callback := fun t pc'' hCall => by
    cases hCall
    exact h.callback t pc rfl
  tested := h.tested
  sending := h.sending
  carried := h.carried

theorem Core.ends (h : Seen ⟨thread, queue, some (c, pc)⟩ s) :
    Seen ⟨thread, queue, none⟩ (startEnds c s) where
  threads := h.threads
  hdl := h.hdl
  queues := h.queues
  calls := by
    show drop s.calls c = _
    rw [h.calls]
    exact drop_single c pc
  receiving := h.receiving
  callback := fun _ _ hCall => by cases hCall
  tested := h.tested
  sending := h.sending
  carried := h.carried

theorem Core.createQueue (h : Seen ⟨thread, none, call⟩ s) :
    Seen ⟨thread, some (s.nextHandle, []), call⟩ { s with
      queues := put s.queues s.nextHandle []
      rpcSuppCbThreadQ := some s.nextHandle
      sent := 0
      nextHandle := s.nextHandle + 1 } where
  threads := h.threads
  hdl := h.hdl
  queues := by
    show put s.queues s.nextHandle [] = _
    rw [h.queues]
    rfl
  calls := h.calls
  receiving := fun t q' hThread => by
    obtain ⟨items, hNone⟩ := h.receiving t q' hThread
    cases hNone
  callback := h.callback
  tested := fun hEvent => absurd rfl (h.tested hEvent)
  sending := fun q' i hEvent => by
    obtain ⟨items, hNone⟩ := h.sending q' i hEvent
    cases hNone
  carried := h.carried

theorem Core.createThread (h : Seen ⟨none, queue, call⟩ s) :
    Seen ⟨some (s.nextHandle, .waiting), queue, call⟩ { s with
      threads := put s.threads s.nextHandle .waiting
      rpcSuppCbThreadHdl := some s.nextHandle
      nextHandle := s.nextHandle + 1 } where
  threads := by
    show put s.threads s.nextHandle .waiting = _
    rw [h.threads]
    rfl
  hdl := rfl
  queues := h.queues
  calls := h.calls
  receiving := fun _ _ hThread => by cases hThread
  callback := fun t' pc' hCall => by
    obtain ⟨i, hNone⟩ := h.callback t' pc' hCall
    cases hNone
  tested := h.tested
  sending := h.sending
  carried := h.carried

/-- A thread without an item takes nothing along. -/
theorem Core.deleteThread {t : Nat} {tpc : ThreadPc} (hHand : tpc.hand = [])
    (h : Seen ⟨some (t, tpc), queue, some (c, pc)⟩ s) :
    c ≠ .callback t ∧ Seen ⟨none, queue, some (c, pc)⟩
      { deleteThread t s with rpcSuppCbThreadHdl := none } := by
  have hNe : c ≠ .callback t := by
    rintro rfl
    obtain ⟨i, hThread⟩ := h.callback t pc rfl
    cases hThread
    cases hHand
  have hReached : tpc.reached = [] := by
    cases tpc with
    | waiting | receiving _ | taken _ => rfl
    | inCallback i | done i => cases hHand
  refine ⟨hNe, ⟨?_, rfl, h.queues, ?_, ?_, fun t' pc' hCall => ?_, h.tested, h.sending, ?_⟩⟩
  · show drop s.threads t = _
    rw [h.threads]
    exact drop_single t tpc
  · show drop s.calls (.callback t) = _
    rw [h.calls]
    exact drop_single_of_ne hNe pc
  · exact fun _ _ hThread => by cases hThread
  · cases hCall
    obtain ⟨i, hThread⟩ := h.callback t' pc rfl
    cases hThread
    exact absurd rfl hNe
  · have hCarried := h.carried
    simp only [View.hand, View.reached, Option.elim_some, hHand, hReached] at hCarried
    exact hCarried

theorem Core.deleteQueue {q : Nat} (h : Seen ⟨none, some (q, []), call⟩ s)
    (hHandle : s.rpcSuppCbThreadQ = some q) (hEvent : s.event = .idle) :
    Seen ⟨none, none, call⟩ (deleteQueue s) := by
  have hEq : SuppDpp.deleteQueue s = { s with queues := drop s.queues q } := by
    simp only [SuppDpp.deleteQueue, hHandle]
  rw [hEq]
  refine ⟨h.threads, h.hdl, ?_, h.calls, ?_, ?_, ?_, ?_, h.carried⟩
  · show drop s.queues q = _
    rw [h.queues]
    exact drop_single q []
  · exact fun _ _ hThread => by cases hThread
  · intro t pc' hCall
    obtain ⟨i, hNone⟩ := h.callback t pc' hCall
    cases hNone
  · exact fun hBusy => absurd hEvent hBusy
  · exact fun q' i hSending => by cases hEvent.symm.trans hSending

/-- A round of the drain takes the head of the queue, or nothing. -/
theorem Core.drainOne {q : Nat} {items : List Item} (h : Seen ⟨none, some (q, items), call⟩ s)
    (hHandle : s.rpcSuppCbThreadQ = some q) :
    Seen ⟨none, some (q, items.tail), call⟩ (drainOne s) ∧
      (drainOne s).rpcSuppCbThreadQ = some q ∧ (drainOne s).stopped = s.stopped ∧
        (drainOne s).sent = s.sent := by
  have hFind : find s.queues q = some items := by
    rw [h.queues]
    exact find_single q items
  cases items with
  | nil =>
    have hEq : SuppDpp.drainOne s = s := by
      simp only [SuppDpp.drainOne, hHandle, hFind]
    rw [hEq]
    exact ⟨h, hHandle, rfl, rfl⟩
  | cons i rest =>
    have hEq : SuppDpp.drainOne s = { s with
        queues := put s.queues q rest
        log := { s.log.free i.dppData with drained := s.log.drained ++ [i] } } := by
      simp only [SuppDpp.drainOne, hHandle, hFind]
    rw [hEq]
    refine ⟨⟨h.threads, h.hdl, ?_, h.calls, ?_, ?_, ?_, ?_, ?_⟩, hHandle, rfl, rfl⟩
    · show put s.queues q rest = _
      rw [h.queues]
      exact put_single q _ rest
    · exact fun _ _ hThread => by cases hThread
    · exact h.callback
    · exact fun _ hNone => by cases hNone
    · intro q' j hSending
      obtain ⟨items, hQueue⟩ := h.sending q' j hSending
      cases hQueue
      exact ⟨rest, rfl⟩
    · exact Carried.drain h.carried

end Calls

/-! ## Steps of a start and a stop -/

section CallSteps

variable {s : State} {thread : Option (Nat × ThreadPc)} {queue : Option (Nat × List Item)}
  {c : Caller} {pc : CallPc} {ok : Bool}

/-- No call is over while one is in progress. -/
theorem InView.not_stopped (h : InView ⟨thread, queue, some (c, pc)⟩ s) : s.stopped ≠ true := by
  intro hStopped
  cases (h.stopped hStopped).1

/-- A call goes on. -/
theorem inv_goto {s' : State} (hSeen : Seen ⟨thread, queue, some (c, pc)⟩ s')
    (hStopped : s'.stopped ≠ true) (pc' : CallPc)
    (hPhase : Phase (some pc') (thread.map Prod.fst) (queue.map Prod.fst) s'.rpcSuppCbThreadQ)
    (hLeftover : Leftover (some pc') (thread.map Prod.fst) (queue.elim [] Prod.snd).length
      s'.sent) :
    Inv (goto c pc' s') :=
  ⟨_, hSeen.goto pc', hPhase, hLeftover, fun h => absurd h hStopped⟩

theorem inv_startEnds {s' : State} (hSeen : Seen ⟨thread, queue, some (c, pc)⟩ s')
    (hStopped : s'.stopped ≠ true)
    (hPhase : Phase none (thread.map Prod.fst) (queue.map Prod.fst) s'.rpcSuppCbThreadQ) :
    Inv (startEnds c s') :=
  ⟨_, hSeen.ends, hPhase, trivial, fun h => absurd h hStopped⟩

theorem inv_stopEnds {s' : State} (hSeen : Seen ⟨none, none, some (c, pc)⟩ s')
    (hQ : s'.rpcSuppCbThreadQ = none) : Inv (stopEnds c s') :=
  ⟨⟨none, none, none⟩, hSeen.ends, ⟨rfl, hQ⟩, trivial, fun _ => ⟨rfl, rfl, rfl⟩⟩

theorem startQueue_step (h : InView ⟨thread, queue, some (c, .startQueue)⟩ s) :
    Inv (callStep c ok s .startQueue) := by
  obtain ⟨hPaired, hQ⟩ := h.phase
  cases queue with
  | some e =>
    have hSome : s.rpcSuppCbThreadQ = some e.1 := hQ
    simp only [callStep, hSome]
    -- where there is a queue there is a thread
    refine inv_goto h.seen h.not_stopped _ ⟨Option.some_ne_none _, hQ⟩ fun hNone => ?_
    rw [hNone] at hPaired
    cases hPaired
  | none =>
    have hNone : s.rpcSuppCbThreadQ = none := hQ
    simp only [callStep, hNone]
    split
    · exact inv_goto h.seen.createQueue h.not_stopped _ ⟨Option.some_ne_none _, rfl⟩ fun _ =>
        Nat.le_refl 0
    · exact inv_startEnds h.seen h.not_stopped ⟨hPaired, hQ⟩

theorem startThread_step (h : InView ⟨thread, queue, some (c, .startThread)⟩ s) :
    Inv (callStep c ok s .startThread) := by
  obtain ⟨hQueue, hQ⟩ := h.phase
  have hSome : (queue.map Prod.fst).isSome = true := Option.isSome_iff_ne_none.mpr hQueue
  cases thread with
  | some e =>
    have hHdl : s.rpcSuppCbThreadHdl = some e.1 := h.seen.hdl
    simp only [callStep, hHdl]
    exact inv_startEnds h.seen h.not_stopped ⟨hSome.symm, hQ⟩
  | none =>
    have hHdl : s.rpcSuppCbThreadHdl = none := h.seen.hdl
    simp only [callStep, hHdl]
    split
    · exact inv_startEnds h.seen.createThread h.not_stopped ⟨hSome.symm, hQ⟩
    · exact inv_goto h.seen h.not_stopped _ ⟨rfl, hQueue, hQ⟩ (h.leftover rfl)

/-- An empty queue is deleted. -/
theorem inv_deleteQueue {pc' : CallPc} (hPhase' : pc' = .startClear ∨ pc' = .stopClear)
    (h : InView ⟨thread, queue, some (c, pc)⟩ s) (hThread : thread.map Prod.fst = none)
    (hQueue : queue.map Prod.fst ≠ none) (hQ : s.rpcSuppCbThreadQ = queue.map Prod.fst)
    (hEvent : s.event = .idle) (hEmpty : (queue.elim [] Prod.snd).length = 0) :
    Inv (goto c pc' (deleteQueue s)) := by
  cases queue with
  | none => exact absurd rfl hQueue
  | some e =>
    obtain ⟨q, items⟩ := e
    cases Option.map_eq_none_iff.mp hThread
    obtain rfl : items = [] := List.length_eq_zero_iff.mp hEmpty
    have hStopped : (deleteQueue s).stopped ≠ true := by
      simp only [deleteQueue, show s.rpcSuppCbThreadQ = some q from hQ]
      exact h.not_stopped
    have hSeen := h.seen.deleteQueue hQ hEvent
    rcases hPhase' with rfl | rfl
    · exact inv_goto hSeen hStopped .startClear ⟨rfl, rfl⟩ trivial
    · exact inv_goto hSeen hStopped .stopClear ⟨rfl, rfl⟩ trivial

theorem startDelete_step (h : InView ⟨thread, queue, some (c, .startDelete)⟩ s)
    (hOrderly : Orderly s (.call c ok)) : Inv (callStep c ok s .startDelete) := by
  obtain ⟨hThread, hQueue, hQ⟩ := h.phase
  simp only [Orderly, h.seen.calls, Option.toList_some, find_single] at hOrderly
  obtain ⟨rfl, hEvent, hSent⟩ := hOrderly
  have hLeft := h.leftover
  rw [hSent] at hLeft
  exact inv_deleteQueue (.inl rfl) h hThread hQueue hQ hEvent (Nat.le_zero.mp hLeft)

theorem startClear_step (h : InView ⟨thread, queue, some (c, .startClear)⟩ s) :
    Inv (callStep c ok s .startClear) := by
  obtain ⟨hThread, hQueue⟩ := h.phase
  cases Option.map_eq_none_iff.mp hThread
  cases Option.map_eq_none_iff.mp hQueue
  have hSeen : Seen ⟨none, none, some (c, .startClear)⟩ { s with rpcSuppCbThreadQ := none } :=
    h.seen
  exact inv_startEnds hSeen h.not_stopped ⟨rfl, rfl⟩

theorem stopThread_step (h : InView ⟨thread, queue, some (c, .stopThread)⟩ s)
    (hOrderly : Orderly s (.call c ok)) : Inv (callStep c ok s .stopThread) := by
  obtain ⟨-, hQ⟩ := h.phase
  simp only [Orderly, h.seen.calls, Option.toList_some, find_single] at hOrderly
  cases thread with
  | none =>
    have hHdl : s.rpcSuppCbThreadHdl = none := h.seen.hdl
    simp only [callStep, hHdl]
    exact inv_goto h.seen h.not_stopped _ ⟨rfl, hQ⟩ trivial
  | some e =>
    obtain ⟨t, tpc⟩ := e
    have hHdl : s.rpcSuppCbThreadHdl = some t := h.seen.hdl
    obtain ⟨rfl, hHand⟩ := hOrderly t hHdl
    have hFind : find s.threads t = some tpc := by
      rw [h.seen.threads]
      exact find_single t tpc
    obtain ⟨hNe, hSeen⟩ := h.seen.deleteThread (hHand tpc hFind)
    simp only [callStep, hHdl, if_true, hNe, if_false]
    exact inv_goto hSeen h.not_stopped _ ⟨rfl, hQ⟩ trivial

theorem stopCount_step (h : InView ⟨thread, queue, some (c, .stopCount)⟩ s) :
    Inv (callStep c ok s .stopCount) := by
  obtain ⟨hThread, hQ⟩ := h.phase
  cases Option.map_eq_none_iff.mp hThread
  cases queue with
  | none =>
    have hNone : s.rpcSuppCbThreadQ = none := hQ
    simp only [callStep, hNone]
    exact inv_stopEnds h.seen hNone
  | some e =>
    have hSome : s.rpcSuppCbThreadQ = some e.1 := hQ
    have hFind : find s.queues e.1 = some e.2 := by
      rw [h.seen.queues]
      exact find_single e.1 e.2
    have hSeen : Seen ⟨none, some e, some (c, .stopCount)⟩ { s with sent := 0 } := h.seen
    have hCount : callStep c ok s .stopCount =
        goto c (.stopDrain e.2.length) { s with sent := 0 } := by
      simp only [callStep]
      split
      · rename_i hNone
        cases hSome.symm.trans hNone
      · rename_i q hq
        obtain rfl : e.1 = q := Option.some.inj (hSome.symm.trans hq)
        rw [hFind, Option.getD_some]
    rw [hCount]
    exact inv_goto hSeen h.not_stopped (.stopDrain e.2.length)
      ⟨rfl, Option.some_ne_none _, hQ⟩ (Nat.le_refl _)

theorem stopDrain_step {n : Nat} (h : InView ⟨thread, queue, some (c, .stopDrain n)⟩ s)
    (hOrderly : Orderly s (.call c ok)) : Inv (callStep c ok s (.stopDrain n)) := by
  obtain ⟨hThread, hQueue, hQ⟩ := h.phase
  cases n with
  | zero =>
    simp only [Orderly, h.seen.calls, Option.toList_some, find_single] at hOrderly
    obtain ⟨rfl, hEvent, hSent⟩ := hOrderly
    have hLeft := h.leftover
    rw [hSent] at hLeft
    exact inv_deleteQueue (.inr rfl) h hThread hQueue hQ hEvent (Nat.le_zero.mp hLeft)
  | succ n =>
    simp only [Orderly, h.seen.calls, Option.toList_some, find_single] at hOrderly
    obtain rfl : ok = true := hOrderly
    cases Option.map_eq_none_iff.mp hThread
    cases queue with
    | none => exact absurd rfl hQueue
    | some e =>
      obtain ⟨hSeen, hHandle, hSame, hSent⟩ := h.seen.drainOne hQ
      refine inv_goto hSeen (hSame ▸ h.not_stopped) _ ⟨rfl, hQueue, hHandle⟩ ?_
      -- one of the counted items is gone
      have hLeft : e.2.length ≤ n + 1 + s.sent := h.leftover
      show e.2.tail.length ≤ n + (drainOne s).sent
      rw [List.length_tail, hSent]
      omega

theorem stopClear_step (h : InView ⟨thread, queue, some (c, .stopClear)⟩ s) :
    Inv (callStep c ok s .stopClear) := by
  obtain ⟨hThread, hQueue⟩ := h.phase
  cases Option.map_eq_none_iff.mp hThread
  cases Option.map_eq_none_iff.mp hQueue
  have hSeen : Seen ⟨none, none, some (c, .stopClear)⟩ { s with rpcSuppCbThreadQ := none } :=
    h.seen
  exact inv_stopEnds hSeen rfl

theorem inv_call {t : State} (hInv : Inv s) (hOrderly : Orderly s (.call c ok))
    (hStep : step s (.call c ok) = some t) : Inv t := by
  obtain ⟨⟨thread, queue, call⟩, h⟩ := hInv
  obtain ⟨pc, hFind, rfl⟩ := Option.map_eq_some_iff.mp hStep
  cases call with
  | none =>
    rw [show s.calls = [] from h.seen.calls] at hFind
    cases hFind
  | some e =>
    obtain ⟨c', pc'⟩ := e
    rw [show s.calls = [(c', pc')] from h.seen.calls] at hFind
    obtain ⟨rfl, rfl⟩ := find_single_iff.mp hFind
    cases pc' with
    | startQueue => exact startQueue_step h
    | startThread => exact startThread_step h
    | startDelete => exact startDelete_step h hOrderly
    | startClear => exact startClear_step h
    | stopThread => exact stopThread_step h hOrderly
    | stopCount => exact stopCount_step h
    | stopDrain n => exact stopDrain_step h hOrderly
    | stopClear => exact stopClear_step h

theorem inv_begin {t : State} {pc : CallPc} (hPc : pc = .startQueue ∨ pc = .stopThread)
    (hInv : Inv s) (hNone : s.calls = []) (hStep : beginCall s c pc = some t) : Inv t := by
  obtain ⟨⟨thread, queue, call⟩, h⟩ := hInv
  unfold beginCall at hStep
  split at hStep
  · rename_i hCan
    cases hStep
    cases h.seen.no_call hNone
    have hPhase : Phase (some pc) (thread.map Prod.fst) (queue.map Prod.fst)
        s.rpcSuppCbThreadQ := by
      rcases hPc with rfl | rfl
      · exact h.phase
      · exact h.phase
    have hLeftover : Leftover (some pc) (thread.map Prod.fst) (queue.elim [] Prod.snd).length
        s.sent := by
      rcases hPc with rfl | rfl
      · trivial
      · trivial
    refine ⟨⟨thread, queue, some (c, pc)⟩, ⟨h.seen.threads, h.seen.hdl, h.seen.queues, ?_,
      h.seen.receiving, fun n pc' hCallback => ?_, h.seen.tested, h.seen.sending,
      h.seen.carried⟩, hPhase, hLeftover, fun hStopped => by cases hStopped⟩
    · show put s.calls c pc = _
      rw [hNone]
      rfl
    · cases hCallback
      have hIn := hCan.2
      cases thread with
      | none =>
        simp only [inCallback, h.seen.threads, Option.toList_none, find_nil] at hIn
        cases hIn
      | some e =>
        obtain ⟨m, tpc⟩ := e
        simp only [inCallback, h.seen.threads, Option.toList_some] at hIn
        split at hIn
        · rename_i i hFind
          obtain ⟨rfl, rfl⟩ := find_single_iff.mp hFind
          exact ⟨i, rfl⟩
        · cases hIn
  · cases hStep

end CallSteps

/-! ## Events and the thread -/

section Steps

variable {s t : State}

theorem newItem_serial (e : DppEvent) (reason : Int) (n : Nat) :
    (newItem e reason n).serial = n := by
  cases e <;> rfl

theorem newItem_dppData (e : DppEvent) (reason : Int) (n : Nat) :
    ∀ b ∈ (newItem e reason n).dppData, b = n := by
  intro b hb
  cases e with
  | fail => cases hb
  | uriReady | cfgRecvd => exact (Option.some.inj hb).symm

theorem inv_event {e : DppEvent} {reason : Int} {granted : Bool} (hInv : Inv s)
    (hOrderly : Orderly s (.event e reason granted))
    (hStep : step s (.event e reason granted) = some t) : Inv t := by
  obtain ⟨⟨thread, queue, call⟩, h⟩ := hInv
  simp only [step] at hStep
  split at hStep
  · rename_i hIdle
    cases hStep
    unfold rpcEventCallback
    split
    · exact ⟨_, h⟩
    · rename_i hPushes
      have hQ : s.rpcSuppCbThreadQ ≠ none := fun hNone => hPushes (.inl hNone)
      have hQueue : queue ≠ none := by
        have hPhase := h.phase
        cases call with
        | none =>
          rintro rfl
          exact hQ hPhase.2
        | some p =>
          obtain ⟨c, pc⟩ := p
          have hMem : (c, pc) ∈ s.calls := by
            rw [h.seen.calls]
            exact List.mem_singleton_self _
          have hClear := hOrderly _ hMem
          rintro rfl
          cases pc with
          | startQueue | stopThread | startThread | stopCount => exact hQ hPhase.2
          | startDelete | stopDrain n => exact hQ hPhase.2.2
          | startClear => exact hClear.1 rfl
          | stopClear => exact hClear.2 rfl
      have hCarried := h.seen.carried
      rw [hIdle] at hCarried
      refine ⟨⟨thread, queue, call⟩, ⟨h.seen.threads, h.seen.hdl, h.seen.queues, h.seen.calls,
        h.seen.receiving, h.seen.callback, fun _ => hQueue, fun q i hSending => ?_, ?_⟩, h.phase,
        h.leftover, h.stopped⟩
      · cases hSending
      · exact Carried.prepare hCarried (newItem_serial _ _ _) (newItem_dppData _ _ _)
  · cases hStep

theorem inv_sendEnter (hInv : Inv s) (hStep : step s .sendEnter = some t) : Inv t := by
  obtain ⟨⟨thread, queue, call⟩, h⟩ := hInv
  simp only [step] at hStep
  cases hEvent : s.event with
  | idle | sending q i =>
    rw [hEvent] at hStep
    cases hStep
  | tested i =>
    rw [hEvent] at hStep
    have hQueue : queue ≠ none := h.seen.tested (by rw [hEvent]; exact EventPc.noConfusion)
    cases queue with
    | none => exact absurd rfl hQueue
    | some p =>
      obtain ⟨q, items⟩ := p
      have hQ : s.rpcSuppCbThreadQ = some q := h.phase.handle (Option.some_ne_none q)
      simp only [sendEnter, hQ] at hStep
      cases hStep
      have hCarried := h.seen.carried
      rw [hEvent] at hCarried
      have hPhase := h.phase
      rw [hQ] at hPhase
      refine ⟨⟨thread, some (q, items), call⟩, ⟨h.seen.threads, h.seen.hdl, h.seen.queues,
        h.seen.calls, h.seen.receiving, h.seen.callback, fun _ => hQueue, fun q' j hSending => ?_,
        hCarried⟩, hPhase, h.leftover, h.stopped⟩
      cases hSending
      exact ⟨items, rfl⟩

theorem inv_sendDone {ok : Bool} (hInv : Inv s) (hOrderly : Orderly s (.sendDone ok))
    (hStep : step s (.sendDone ok) = some t) : Inv t := by
  obtain ⟨⟨thread, queue, call⟩, h⟩ := hInv
  simp only [step] at hStep
  cases hEvent : s.event with
  | idle | tested i =>
    rw [hEvent] at hStep
    cases hStep
  | sending q i =>
    rw [hEvent] at hStep
    obtain ⟨items, hQueue⟩ := h.seen.sending q i hEvent
    cases hQueue
    have hCarried := h.seen.carried
    rw [hEvent] at hCarried
    cases ok with
    | true =>
      have hFind : find s.queues q = some items := by
        rw [h.seen.queues]
        exact find_single q items
      simp only [sendDone, if_true, hFind] at hStep
      split at hStep
      · cases hStep
        refine ⟨⟨thread, some (q, items ++ [i]), call⟩, ⟨h.seen.threads, h.seen.hdl, ?_,
          h.seen.calls, fun n q' hThread => ?_, h.seen.callback, fun hBusy => absurd rfl hBusy,
          fun _ _ hSending => ?_, ?_⟩, h.phase, ?_, fun hStopped => ?_⟩
        · show put s.queues q (items ++ [i]) = _
          rw [h.seen.queues]
          exact put_single q items _
        · obtain ⟨items', hSame⟩ := h.seen.receiving n q' hThread
          cases hSame
          exact ⟨_, rfl⟩
        · cases hSending
        · exact Carried.send hCarried
        · have hLength : (items ++ [i]).length = items.length + 1 := List.length_append
          exact (hLength ▸ h.leftover.sent_one)
        · cases (h.stopped hStopped).2.2
      · cases hStep
    | false =>
      have hNone : i.dppData = none := by
        rcases hOrderly with hFalse | hData
        · cases hFalse
        · rw [hEvent] at hData
          exact hData i List.mem_cons_self
      simp only [sendDone, Bool.false_eq_true, if_false] at hStep
      cases hStep
      refine ⟨⟨thread, some (q, items), call⟩, ⟨h.seen.threads, h.seen.hdl, h.seen.queues,
        h.seen.calls, h.seen.receiving, h.seen.callback, fun hBusy => absurd rfl hBusy,
        fun _ _ hSending => ?_, ?_⟩, h.phase, h.leftover, h.stopped⟩
      · cases hSending
      · exact Carried.refuse hCarried hNone

/-- A step of the thread that leaves the queue of this name, and calls none. -/
theorem inv_atPc {n : Nat} {pc pc' : ThreadPc} {queue queue' : Option (Nat × List Item)}
    {call : Option (Caller × CallPc)} {queues : List (Nat × List Item)} {log : Log Item}
    (h : InView ⟨some (n, pc), queue, call⟩ s)
    (hQueues : queues = queue'.toList) (hSame : queue'.map Prod.fst = queue.map Prod.fst)
    (hLess : (queue'.elim [] Prod.snd).length ≤ (queue.elim [] Prod.snd).length)
    (hCalls : ∀ pc'', call = some (.callback n, pc'') → ∃ i, pc' = .inCallback i)
    (hReceiving : ∀ q, pc' = .receiving q → ∃ items, queue' = some (q, items))
    (hCarried : Carried Item.serial Item.dppData pc'.hand pc'.reached
      (View.queued ⟨some (n, pc'), queue', call⟩) s.event.ready log) :
    Inv (atPc n pc' { s with queues := queues, log := log }) := by
  have hNamed : ∀ q, (∃ items, queue = some (q, items)) → ∃ items, queue' = some (q, items) := by
    rintro q ⟨items, rfl⟩
    obtain ⟨⟨q', items'⟩, rfl, hFst⟩ := Option.map_eq_some_iff.mp hSame
    cases hFst
    exact ⟨items', rfl⟩
  refine ⟨⟨some (n, pc'), queue', call⟩, ⟨?_, h.seen.hdl, hQueues, h.seen.calls, ?_, ?_, ?_, ?_,
    hCarried⟩, ?_, h.leftover.of_le hLess, fun hStopped => ?_⟩
  · show put s.threads n pc' = _
    rw [h.seen.threads]
    exact put_single n pc pc'
  · intro m q hThread
    cases hThread
    exact hReceiving q rfl
  · intro m pc'' hCall
    obtain ⟨i, hThread⟩ := h.seen.callback m pc'' hCall
    cases hThread
    obtain ⟨j, rfl⟩ := hCalls pc'' hCall
    exact ⟨j, rfl⟩
  · intro hBusy hNone
    have hOld := h.seen.tested hBusy
    rw [show queue' = none from hNone] at hSame
    exact hOld (Option.map_eq_none_iff.mp hSame.symm)
  · exact fun q i hSending => hNamed q (h.seen.sending q i hSending)
  · have hPhase := h.phase
    rw [← hSame] at hPhase
    exact hPhase
  · cases (h.stopped hStopped).2.1

/-- Only a callback that runs can be in a call. -/
theorem InView.no_callback {n : Nat} {pc : ThreadPc} {queue : Option (Nat × List Item)}
    {call : Option (Caller × CallPc)} (h : InView ⟨some (n, pc), queue, call⟩ s)
    (hPc : ∀ i, pc ≠ .inCallback i) (pc' : CallPc) : call ≠ some (.callback n, pc') := by
  intro hCall
  obtain ⟨i, hThread⟩ := h.seen.callback n pc' hCall
  cases hThread
  exact hPc i rfl

theorem recv_step {n q : Nat} {queue : Option (Nat × List Item)}
    {call : Option (Caller × CallPc)} (h : InView ⟨some (n, .receiving q), queue, call⟩ s)
    (hStep : rpcSuppThread n s (.receiving q) (.recv true) = some t) : Inv t := by
  obtain ⟨items, hQueue⟩ := h.seen.receiving n q rfl
  cases hQueue
  have hFind : find s.queues q = some items := by
    rw [h.seen.queues]
    exact find_single q items
  simp only [rpcSuppThread, hFind] at hStep
  cases items with
  | nil => cases hStep
  | cons i rest =>
    cases hStep
    have hQueues : put s.queues q rest = (some (q, rest)).toList := by
      rw [h.seen.queues]
      exact put_single q _ rest
    refine inv_atPc h hQueues rfl (Nat.le_succ _) (fun pc'' hCall => ?_) ?_ ?_
    · exact absurd hCall (h.no_callback (fun _ => ThreadPc.noConfusion) pc'')
    · exact fun _ hReceiving => by cases hReceiving
    · exact Carried.take h.seen.carried

theorem callback_step {n : Nat} {i : Item} {queue : Option (Nat × List Item)}
    {call : Option (Caller × CallPc)} (h : InView ⟨some (n, .taken i), queue, call⟩ s)
    (hStep : rpcSuppThread n s (.taken i) .callback = some t) : Inv t := by
  have hCall := h.no_callback fun _ => ThreadPc.noConfusion
  simp only [rpcSuppThread] at hStep
  split at hStep
  · cases hStep
    refine inv_atPc h h.seen.queues rfl (Nat.le_refl _)
      (fun pc'' hSome => absurd hSome (hCall pc'')) ?_ ?_
    · exact fun _ hReceiving => by cases hReceiving
    · exact Carried.deliver h.seen.carried
  · cases hStep
    refine inv_atPc h h.seen.queues rfl (Nat.le_refl _)
      (fun pc'' hSome => absurd hSome (hCall pc'')) ?_ ?_
    · exact fun _ hReceiving => by cases hReceiving
    · exact Carried.ignore h.seen.carried

theorem inv_thread {n : Nat} {a : ThreadStep} (hInv : Inv s)
    (hStep : step s (.thread n a) = some t) : Inv t := by
  obtain ⟨⟨thread, queue, call⟩, h⟩ := hInv
  obtain ⟨pc, hFind, hStep⟩ := Option.bind_eq_some_iff.mp hStep
  cases thread with
  | none =>
    rw [show s.threads = [] from h.seen.threads] at hFind
    cases hFind
  | some e =>
    obtain ⟨m, pc'⟩ := e
    rw [show s.threads = [(m, pc')] from h.seen.threads] at hFind
    obtain ⟨rfl, rfl⟩ := find_single_iff.mp hFind
    cases pc' with
    | waiting =>
      cases a with
      | enter =>
        have hQ : s.rpcSuppCbThreadQ = queue.map Prod.fst :=
          h.phase.handle_of_thread (Option.some_ne_none m)
        cases queue with
        | none =>
          have hNone : s.rpcSuppCbThreadQ = none := hQ
          simp only [rpcSuppThread, hNone] at hStep
          cases hStep
          exact ⟨_, h⟩
        | some p =>
          have hSome : s.rpcSuppCbThreadQ = some p.1 := hQ
          simp only [rpcSuppThread, hSome] at hStep
          cases hStep
          have hCall := h.no_callback fun _ => ThreadPc.noConfusion
          refine inv_atPc h h.seen.queues rfl (Nat.le_refl _)
            (fun pc'' hSome => absurd hSome (hCall pc'')) ?_
            h.seen.carried
          intro q hReceiving
          cases hReceiving
          exact ⟨p.2, rfl⟩
      | recv ok => cases hStep
      | callback | callbackReturns | free => cases hStep
    | receiving q =>
      cases a with
      | enter | callback | callbackReturns | free => cases hStep
      | recv ok =>
        cases ok with
        | true => exact recv_step h hStep
        | false =>
          cases hStep
          have hCall := h.no_callback fun _ => ThreadPc.noConfusion
          refine inv_atPc h h.seen.queues rfl (Nat.le_refl _)
            (fun pc'' hSome => absurd hSome (hCall pc'')) ?_
            h.seen.carried
          exact fun _ hReceiving => by cases hReceiving
    | taken i =>
      cases a with
      | enter | callbackReturns | free => cases hStep
      | recv ok => cases hStep
      | callback => exact callback_step h hStep
    | inCallback i =>
      cases a with
      | enter | callback | free => cases hStep
      | recv ok => cases hStep
      | callbackReturns =>
        simp only [rpcSuppThread] at hStep
        split at hStep
        · rename_i hNone
          cases hStep
          refine inv_atPc h h.seen.queues rfl (Nat.le_refl _)
            (fun pc'' hSome => ?_) ?_ h.seen.carried
          · rw [h.seen.calls, show call = _ from hSome, Option.toList_some, find_single] at hNone
            cases hNone
          · exact fun _ hReceiving => by cases hReceiving
        · cases hStep
    | done i =>
      cases a with
      | enter | callback | callbackReturns => cases hStep
      | recv ok => cases hStep
      | free =>
        cases hStep
        have hCall := h.no_callback fun _ => ThreadPc.noConfusion
        refine inv_atPc h h.seen.queues rfl (Nat.le_refl _)
          (fun pc'' hSome => absurd hSome (hCall pc'')) ?_ ?_
        · exact fun _ hReceiving => by cases hReceiving
        · exact Carried.letGo h.seen.carried

end Steps

theorem inv_step {s t : State} {a : Action} (hInv : Inv s) (hOrderly : Orderly s a)
    (hStep : step s a = some t) : Inv t := by
  cases a with
  | setCallback set =>
    cases hStep
    obtain ⟨v, h⟩ := hInv
    exact ⟨v, h.seen, h.phase, h.leftover, h.stopped⟩
  | start c => exact inv_begin (.inl rfl) hInv hOrderly hStep
  | stop c => exact inv_begin (.inr rfl) hInv hOrderly hStep
  | call c ok => exact inv_call hInv hOrderly hStep
  | event e reason granted => exact inv_event hInv hOrderly hStep
  | sendEnter => exact inv_sendEnter hInv hStep
  | sendDone ok => exact inv_sendDone hInv hOrderly hStep
  | thread n a => exact inv_thread hInv hStep

/-! ## The contract of a state in view -/

section Contract

variable {v : View} {s : State}

theorem InView.owned_iff (h : InView v s) (b : Nat) :
    Owned s b ↔ b ∈ (v.hand ++ v.queued ++ s.event.ready).filterMap Item.dppData := by
  have hThreads : (∃ p ∈ s.threads, ∃ i ∈ p.2.hand, i.dppData = some b) ↔
      ∃ i ∈ v.hand, i.dppData = some b := by
    rw [h.seen.threads, View.hand]
    cases v.thread <;> simp
  have hQueues : (∃ p ∈ s.queues, ∃ i ∈ p.2, i.dppData = some b) ↔
      ∃ i ∈ v.queued, i.dppData = some b := by
    rw [h.seen.queues, View.queued]
    cases v.queue <;> simp
  rw [Owned, hThreads, hQueues, List.filterMap_append, List.filterMap_append, List.mem_append,
    List.mem_append, List.mem_filterMap, List.mem_filterMap, List.mem_filterMap, or_assoc]

theorem InView.used (h : InView v s) {q : Nat} (hUsing : Using s q) :
    ∃ items, (q, items) ∈ s.queues := by
  have hMem : ∀ items, v.queue = some (q, items) → (q, items) ∈ s.queues := by
    intro items hQueue
    rw [h.seen.queues]
    exact Option.mem_toList.mpr hQueue
  rcases hUsing with ⟨t, hThread⟩ | ⟨i, hSending⟩ | ⟨hQ, c, n, hCall⟩
  · rw [h.seen.threads] at hThread
    obtain ⟨items, hQueue⟩ := h.seen.receiving t q (Option.mem_toList.mp hThread)
    exact ⟨items, hMem items hQueue⟩
  · obtain ⟨items, hQueue⟩ := h.seen.sending q i hSending
    exact ⟨items, hMem items hQueue⟩
  · rw [h.seen.calls] at hCall
    have hPhase := h.phase
    rw [Option.mem_toList.mp hCall] at hPhase
    obtain ⟨⟨q', items⟩, hQueue, rfl⟩ := Option.map_eq_some_iff.mp (hPhase.2.2.symm.trans hQ)
    exact ⟨items, hMem items hQueue⟩

theorem InView.stopped_empty (h : InView v s) (hStopped : s.stopped = true) : s.threads = [] ∧
    s.queues = [] ∧ s.rpcSuppCbThreadHdl = none ∧ s.rpcSuppCbThreadQ = none := by
  obtain ⟨hCall, hThread, hQueue⟩ := h.stopped hStopped
  have hPhase := h.phase
  rw [hCall, hQueue] at hPhase
  refine ⟨?_, ?_, ?_, hPhase.2⟩
  · rw [h.seen.threads, hThread, Option.toList_none]
  · rw [h.seen.queues, hQueue, Option.toList_none]
  · rw [h.seen.hdl, hThread, Option.map_none]

theorem reached_sublist_hand (v : View) : v.reached.Sublist v.hand := by
  unfold View.reached View.hand
  cases v.thread with
  | none => exact List.Sublist.refl _
  | some e =>
    obtain ⟨n, pc⟩ := e
    cases pc with
    | waiting | receiving _ | inCallback _ | done _ => exact List.Sublist.refl _
    | taken i => exact List.nil_sublist _

/-- An item in hand has reached its end or is pending. -/
theorem InView.pending_of_hand (h : InView v s) {i : Item} (hHand : i ∈ v.hand) :
    i ∈ v.reached ∨ Pending s i := by
  unfold View.hand at hHand
  unfold View.reached
  cases hThread : v.thread with
  | none =>
    rw [hThread] at hHand
    cases hHand
  | some e =>
    obtain ⟨n, pc⟩ := e
    rw [hThread] at hHand
    cases pc with
    | waiting | receiving _ => cases hHand
    | inCallback j | done j => exact .inl hHand
    | taken j =>
      refine .inr (.inl ⟨n, ?_⟩)
      rw [h.seen.threads, List.mem_singleton.mp hHand]
      exact Option.mem_toList.mpr hThread

theorem InView.pending_of_queued (h : InView v s) {i : Item} (hQueued : i ∈ v.queued) :
    Pending s i := by
  unfold View.queued at hQueued
  cases hQueue : v.queue with
  | none =>
    rw [hQueue] at hQueued
    cases hQueued
  | some e =>
    rw [hQueue] at hQueued
    refine .inr ⟨e, ?_, hQueued⟩
    rw [h.seen.queues]
    exact Option.mem_toList.mpr hQueue

theorem InView.has_thread (h : InView v s) (hCalls : s.calls = []) {i : Item}
    (hPending : Pending s i) : ∃ t pc, s.rpcSuppCbThreadHdl = some t ∧ (t, pc) ∈ s.threads := by
  have hPaired := h.phase
  rw [h.seen.no_call hCalls] at hPaired
  cases hThread : v.thread with
  | some e =>
    refine ⟨e.1, e.2, ?_, ?_⟩
    · rw [h.seen.hdl, hThread, Option.map_some]
    · rw [h.seen.threads]
      exact Option.mem_toList.mpr hThread
  | none =>
    have hQueue : v.queue = none := by
      have hIsSome := hPaired.1
      rw [hThread] at hIsSome
      cases hQueue : v.queue with
      | none => rfl
      | some e =>
        rw [hQueue] at hIsSome
        cases hIsSome
    rcases hPending with ⟨t, hTaken⟩ | ⟨p, hMem, -⟩
    · rw [h.seen.threads, hThread] at hTaken
      cases hTaken
    · rw [h.seen.queues, hQueue] at hMem
      cases hMem

theorem Inv.sound (hInv : Inv s) : Sound s := by
  obtain ⟨v, h⟩ := hInv
  have hCarried := h.seen.carried
  refine ⟨fun b => ?_, fun q => h.used, h.stopped_empty,
    hCarried.delivered_sublist (reached_sublist_hand v), hCarried.accepted_nodup, fun i hMem => ?_,
    fun hCalls i => h.has_thread hCalls⟩
  · rw [h.owned_iff]
    exact hCarried.freed_or_owned b
  · rcases hCarried.found hMem with hYes | hYes | hYes | hHand | hQueued
    · exact .inl hYes
    · exact .inr (.inl hYes)
    · exact .inr (.inr (.inl hYes))
    · rcases h.pending_of_hand hHand with hReached | hPending
      · rcases hCarried.found_reached hReached with hYes | hYes | hYes
        · exact .inl hYes
        · exact .inr (.inl hYes)
        · exact .inr (.inr (.inl hYes))
      · exact .inr (.inr (.inr hPending))
    · exact .inr (.inr (.inr (h.pending_of_queued hQueued)))

end Contract

/-! ## What the thread reaches -/

section Progress

variable {v : View} {s : State}

/-- The steps to the next receive. -/
def ThreadPc.stepsLeft : ThreadPc → Nat
  | .receiving _ => 0
  | .waiting => 1
  | .done _ => 2
  | .inCallback _ => 3
  | .taken _ => 4

/-- A queued item takes five steps. -/
def stepsLeft (s : State) : Nat :=
  (s.queues.map fun e => 5 * e.2.length).sum + (s.threads.map fun e => e.2.stepsLeft).sum

theorem InView.all_reached (h : InView v s) (hHand : v.hand = []) (hQueued : v.queued = []) :
    AllReached s := by
  intro i hMem
  rcases h.seen.carried.found hMem with hYes | hYes | hYes | hIn | hIn
  · exact .inl hYes
  · exact .inr (.inl hYes)
  · exact .inr (.inr hYes)
  · rw [hHand] at hIn
    cases hIn
  · rw [hQueued] at hIn
    cases hIn

/-- The state after a step of the thread, with fewer steps left. -/
structure Onward (s t : State) : Prop where
  calls : t.calls = s.calls
  accepted : t.log.accepted = s.log.accepted
  drained : t.log.drained = s.log.drained
  less : stepsLeft t < stepsLeft s

section

variable {n q : Nat} {pc : ThreadPc} {items : List Item}

theorem InView.step_thread (h : InView ⟨some (n, pc), some (q, items), none⟩ s) (x : ThreadStep) :
    step s (.thread n x) = rpcSuppThread n s pc x := by
  have hThreads : s.threads = [(n, pc)] := h.seen.threads
  simp only [step, hThreads, find_single, Option.bind_some]

theorem InView.stepsLeft_eq (h : InView ⟨some (n, pc), some (q, items), none⟩ s) :
    stepsLeft s = 5 * items.length + pc.stepsLeft := by
  have hThreads : s.threads = [(n, pc)] := h.seen.threads
  have hQueues : s.queues = [(q, items)] := h.seen.queues
  simp only [stepsLeft, hThreads, hQueues, List.map_cons, List.map_nil, List.sum_cons,
    List.sum_nil, Nat.add_zero]

theorem InView.stepsLeft_atPc (h : InView ⟨some (n, pc), some (q, items), none⟩ s)
    (pc' : ThreadPc) (rest : List Item) (log : Log Item) :
    stepsLeft (atPc n pc' { s with queues := put s.queues q rest, log := log }) =
      5 * rest.length + pc'.stepsLeft := by
  have hThreads : s.threads = [(n, pc)] := h.seen.threads
  have hQueues : s.queues = [(q, items)] := h.seen.queues
  simp only [stepsLeft, atPc, hThreads, hQueues, put_single, List.map_cons, List.map_nil,
    List.sum_cons, List.sum_nil, Nat.add_zero]

/-- A step that leaves the queue alone. -/
theorem InView.stepsLeft_lt (h : InView ⟨some (n, pc), some (q, items), none⟩ s)
    (pc' : ThreadPc) (hLess : pc'.stepsLeft < pc.stepsLeft) (log : Log Item) :
    stepsLeft (atPc n pc' { s with log := log }) < stepsLeft s := by
  have hSame : s.queues = put s.queues q items := by
    rw [show s.queues = [(q, items)] from h.seen.queues, put_single]
  have hThen := h.stepsLeft_atPc pc' items log
  rw [← hSame] at hThen
  rw [h.stepsLeft_eq]
  exact hThen.trans_lt (Nat.add_lt_add_left hLess _)

/-- The head of the queue is taken. -/
theorem receiving_goes_on {i : Item}
    (h : InView ⟨some (n, .receiving q), some (q, i :: items), none⟩ s) :
    ∃ x t, step s (.thread n x) = some t ∧ Onward s t := by
  have hFind : find s.queues q = some (i :: items) := by
    rw [show s.queues = [(q, i :: items)] from h.seen.queues, find_single]
  refine ⟨.recv true, atPc n (.taken i) { s with queues := put s.queues q items }, ?_, rfl, rfl,
    rfl, ?_⟩
  · rw [h.step_thread]
    simp only [rpcSuppThread, hFind]
  · have hThen := h.stepsLeft_atPc (.taken i) items s.log
    rw [h.stepsLeft_eq, List.length_cons]
    refine hThen.trans_lt ?_
    show 5 * items.length + 4 < 5 * (items.length + 1) + 0
    omega

/-- The callback is called, or the item is not heard. -/
theorem taken_goes_on {i : Item} (h : InView ⟨some (n, .taken i), some (q, items), none⟩ s) :
    ∃ x t, step s (.thread n x) = some t ∧ Onward s t := by
  by_cases hHeard : Heard s i
  · refine ⟨.callback, _, (h.step_thread _).trans (if_pos hHeard), rfl, rfl, rfl, ?_⟩
    exact h.stepsLeft_lt (.inCallback i) (Nat.lt_succ_self 3) _
  · refine ⟨.callback, _, (h.step_thread _).trans (if_neg hHeard), rfl, rfl, rfl, ?_⟩
    exact h.stepsLeft_lt (.done i) ((Nat.lt_succ_self 2).trans (Nat.lt_succ_self 3)) _

end

/-- Between calls the thread can go on while an item has not reached its end. -/
theorem thread_goes_on (hInv : Inv s) (hCalls : s.calls = []) (hLeft : ¬ AllReached s) :
    ∃ n x t, step s (.thread n x) = some t ∧ Onward s t := by
  obtain ⟨⟨thread, queue, call⟩, h⟩ := hInv
  cases h.seen.no_call hCalls
  obtain ⟨hPaired, hQ⟩ := h.phase
  cases thread with
  | none =>
    cases queue with
    | none => exact absurd (h.all_reached rfl rfl) hLeft
    | some e => cases hPaired
  | some e =>
    obtain ⟨n, pc⟩ := e
    refine ⟨n, ?_⟩
    cases queue with
    | none => cases hPaired
    | some e =>
      obtain ⟨q, items⟩ := e
      cases pc with
      | waiting =>
        have hHandle : s.rpcSuppCbThreadQ = some q := hQ
        refine ⟨.enter, atPc n (.receiving q) s, ?_, rfl, rfl, rfl, ?_⟩
        · rw [h.step_thread]
          simp only [rpcSuppThread, hHandle]
        · exact h.stepsLeft_lt (.receiving q) (Nat.lt_succ_self 0) s.log
      | receiving q' =>
        obtain ⟨items', hSame⟩ := h.seen.receiving n q' rfl
        cases hSame
        cases items with
        | nil => exact absurd (h.all_reached rfl rfl) hLeft
        | cons i rest => exact receiving_goes_on h
      | taken i => exact taken_goes_on h
      | inCallback i =>
        refine ⟨.callbackReturns, atPc n (.done i) s, ?_, rfl, rfl, rfl, ?_⟩
        · rw [h.step_thread]
          simp only [rpcSuppThread, hCalls, find_nil, if_true]
        · exact h.stepsLeft_lt (.done i) (Nat.lt_succ_self 2) s.log
      | done i =>
        refine ⟨.free, _, h.step_thread _, rfl, Log.free_accepted _ _, Log.free_drained _ _, ?_⟩
        exact h.stepsLeft_lt .waiting (Nat.lt_succ_self 1) _

/-- Between calls every accepted item can still reach its end. -/
theorem Inv.finishes (hInv : Inv s) (hCalls : s.calls = []) : Finishes s := by
  have hEnd : ∃ t, Reaches step ThreadOnly s t ∧ (Inv t ∧ t.calls = [] ∧
      t.log.accepted = s.log.accepted ∧ t.log.drained = s.log.drained) ∧ AllReached t := by
    apply Reaches.descend stepsLeft
    · rintro u ⟨hInv, hCalls, hAccepted, hDrained⟩ hLeft
      obtain ⟨n, x, t, hStep, hOnward⟩ := thread_goes_on hInv hCalls hLeft
      exact ⟨.thread n x, t, ⟨n, x, rfl⟩, hStep, ⟨inv_thread hInv hStep,
        hOnward.calls.trans hCalls, hOnward.accepted.trans hAccepted,
        hOnward.drained.trans hDrained⟩, hOnward.less⟩
    · exact ⟨hInv, hCalls, rfl, rfl⟩
  obtain ⟨t, hThread, ⟨-, -, hAccepted, hDrained⟩, hAll⟩ := hEnd
  exact ⟨t, hThread, hAccepted, hDrained, hAll⟩

end Progress

/-- For every interleaving of orderly steps. -/
theorem callback_thread {s : State} (hRun : Reaches step Orderly boot s) :
    Sound s ∧ (s.calls = [] → Finishes s) := by
  have hInv := hRun.invariant boot_inv fun _ _ _ hInv hOrderly hStep =>
    inv_step hInv hOrderly hStep
  exact ⟨hInv.sound, hInv.finishes⟩

/-- A callback is set, and the queue 0 and the thread 1 are created. -/
def started : List Action :=
  [.setCallback true, .start (.task 0), .call (.task 0) true, .call (.task 0) true]

/-- An event with data is sent, and the thread calls the callback. -/
def calledBack : List Action :=
  [.event .uriReady 0 true, .sendEnter, .sendDone true, .thread 1 .enter,
    .thread 1 (.recv true), .thread 1 .callback]

/-- A stop by a task whose functions of the OSAL succeed. -/
def stopRun : List Action :=
  [.stop (.task 0), .call (.task 0) true, .call (.task 0) true, .call (.task 0) true,
    .call (.task 0) true]

/-- A stop that drains one event. -/
def drainRun : List Action :=
  [.event .cfgRecvd 0 true, .sendEnter, .sendDone true, .stop (.task 0), .call (.task 0) true,
    .call (.task 0) true, .call (.task 0) true, .call (.task 0) true, .call (.task 0) true]

/-- An event is delivered, and a stop comes while the thread waits and another event is queued. -/
theorem callback_thread_served : ∃ s, Reaches step Orderly boot s ∧ s.stopped = true ∧
    s.log.delivered = [⟨0, .uriReady, 0, some 0⟩] ∧
    s.log.drained = [⟨1, .cfgRecvd, 0, some 1⟩] ∧ s.log.frees 0 = 1 ∧ s.log.frees 1 = 1 ∧
      (Sound s ∧ (s.calls = [] → Finishes s)) := by
  obtain ⟨s, hRun, hEq⟩ := Option.map_eq_some_iff.mp (show (runGuarded step Orderly boot
      (started ++ calledBack ++ [.thread 1 .callbackReturns, .thread 1 .free, .thread 1 .enter] ++
        drainRun)).map
        (fun s => (s.stopped, s.log.delivered, s.log.drained, s.log.frees 0, s.log.frees 1)) =
      some (true, [⟨0, .uriReady, 0, some 0⟩], [⟨1, .cfgRecvd, 0, some 1⟩], 1, 1) by
    decide +kernel)
  simp only [Prod.mk.injEq] at hEq
  obtain ⟨hStopped, hDelivered, hDrained, hFirst, hSecond⟩ := hEq
  exact ⟨s, .of_run hRun, hStopped, hDelivered, hDrained, hFirst, hSecond,
    callback_thread (.of_run hRun)⟩

/-- A stop during the callback loses the block of the event. A stop from within the callback ends
with its thread, before the queue is deleted. After a failed deletion of the thread, the queue is
deleted under it. -/
theorem not_callback_thread :
    (∃ s, Reaches step anyStep boot s ∧ s.stopped = true ∧ s.log.allocated = [0] ∧
      s.log.frees 0 = 0 ∧ ¬ Sound s) ∧
    (∃ s, Reaches step anyStep boot s ∧ s.stopped = true ∧ s.queues = [(0, [])] ∧ ¬ Sound s) ∧
    ∃ s, Reaches step anyStep boot s ∧ s.threads = [(1, .receiving 0)] ∧ s.queues = [] ∧
      ¬ Sound s := by
  refine ⟨?_, ?_, ?_⟩
  · obtain ⟨s, hRun, hEq⟩ := Option.map_eq_some_iff.mp (show (run step boot
        (started ++ calledBack ++ stopRun)).map
        (fun s => (s.stopped, s.log.allocated, s.log.frees 0,
          decide (s.threads = [] ∧ s.queues = [] ∧ s.event = .idle))) =
        some (true, [0], 0, true) by decide +kernel)
    simp only [Prod.mk.injEq, decide_eq_true_eq] at hEq
    obtain ⟨hStopped, hAllocated, hFrees, hThreads, hQueues, hEvent⟩ := hEq
    refine ⟨s, .of_plain_run hRun, hStopped, hAllocated, hFrees, fun hSound => ?_⟩
    have hMem : 0 ∈ s.log.allocated := by
      rw [hAllocated]
      exact List.mem_singleton_self 0
    have hOwned := (hSound.freed 0).2.2.mpr ⟨hMem, hFrees⟩
    simp [Owned, hThreads, hQueues, hEvent, EventPc.ready] at hOwned
  · obtain ⟨s, hRun, hEq⟩ := Option.map_eq_some_iff.mp (show (run step boot
        (started ++ calledBack ++ [.stop (.callback 1), .call (.callback 1) true])).map
        (fun s => (s.stopped, s.queues)) = some (true, [(0, [])]) by decide +kernel)
    simp only [Prod.mk.injEq] at hEq
    obtain ⟨hStopped, hQueues⟩ := hEq
    refine ⟨s, .of_plain_run hRun, hStopped, hQueues, fun hSound => ?_⟩
    have hEmpty := (hSound.stopped hStopped).2.1
    rw [hQueues] at hEmpty
    cases hEmpty
  · obtain ⟨s, hRun, hEq⟩ := Option.map_eq_some_iff.mp (show (run step boot
        (started ++ [.thread 1 .enter, .stop (.task 0), .call (.task 0) false,
          .call (.task 0) true, .call (.task 0) true])).map
        (fun s => (s.threads, s.queues)) = some ([(1, .receiving 0)], []) by decide +kernel)
    simp only [Prod.mk.injEq] at hEq
    obtain ⟨hThreads, hQueues⟩ := hEq
    refine ⟨s, .of_plain_run hRun, hThreads, hQueues, fun hSound => ?_⟩
    have hUsing : Using s 0 := .inl ⟨1, by rw [hThreads]; exact List.mem_singleton_self _⟩
    obtain ⟨items, hMem⟩ := hSound.used 0 hUsing
    rw [hQueues] at hMem
    cases hMem

end EspHosted.Rpc.SuppDpp
