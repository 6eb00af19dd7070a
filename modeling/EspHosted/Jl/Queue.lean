import EspHosted.Lib.Fifo
import EspHosted.Lib.Machine
import EspHosted.Lib.Slots

/-!
# Queues of the JL port

A queue is a circular buffer under a mutex, with a semaphore that counts its items.
`jl_queue_send` stores an item and then posts the semaphore, `jl_queue_recv` pends the semaphore
and then takes an item out, and `jl_queue_reset` empties the buffer and sets the semaphore to 0.

Any number of threads run these functions on one queue. A step is a section under the mutex or
an operation on the semaphore.

* `queue_exact`: the count stays within the capacity, it is accounted for by the semaphore and by
  the threads that are between their two steps, and what is received are the sent items, first in,
  first out, as long as no thread is between its two steps when the queue is reset;
* `Exact.received_sublist`, `Exact.missing`: no item is received twice, and none is lost without a
  reset.
-/

namespace EspHosted.Jl.Queue

open Machine Fifo

variable {α : Type}

/-! ## Model -/

/-- `jl_queue_t`. -/
structure JlQueue (α : Type) where
  buf : List α
  capacity : Nat
  head : Nat
  tail : Nat
  count : Nat
  sem : Nat

/-- `jl_queue_create`, with memory for the items. -/
def jlQueueCreate (mem : List α) : Option (JlQueue α) :=
  if mem.length = 0 then none
  else some { buf := mem, capacity := mem.length, head := 0, tail := 0, count := 0, sem := 0 }

/-- The section of `jl_queue_send`; a full queue is left as it is. -/
def JlQueue.store (q : JlQueue α) (x : α) : Option (JlQueue α) :=
  if q.count < q.capacity then
    some { q with buf := q.buf.set q.tail x, tail := (q.tail + 1) % q.capacity,
                  count := (q.count + 1) % 2 ^ 32 }
  else none

/-- The section of `jl_queue_recv`. The count is a `uint32_t`. -/
def JlQueue.take (q : JlQueue α) : Option (α × JlQueue α) :=
  (q.buf[q.head]?).map fun x =>
    (x, { q with head := (q.head + 1) % q.capacity, count := (q.count + (2 ^ 32 - 1)) % 2 ^ 32 })

/-- The section of `jl_queue_reset`. -/
def JlQueue.reset (q : JlQueue α) : JlQueue α :=
  { q with head := 0, tail := 0, count := 0, sem := 0 }

/-- Where a thread is: outside, in `jl_queue_send` with the item stored, in `jl_queue_recv` with
a token of the semaphore. -/
inductive Pc
  | idle
  | posting
  | holding
  deriving DecidableEq

structure State (α : Type) where
  q : JlQueue α
  threads : List Pc
  history : List (Event α)

def boot (q : JlQueue α) (n : Nat) : State α :=
  { q, threads := List.replicate n .idle, history := [] }

inductive Action (α : Type)
  | send (i : Nat) (x : α)
  | post (i : Nat)
  | pend (i : Nat)
  | recv (i : Nat)
  | giveBack (i : Nat)
  | reset (i : Nat)

/-- The section of a sender. On a full queue it tries again later or gives up. -/
def send (s : State α) (i : Nat) (x : α) : Option (State α) :=
  if s.threads[i]? = some .idle then
    match s.q.store x with
    | none => some s
    | some q =>
      some { q, threads := s.threads.set i .posting, history := s.history ++ [.put x] }
  else none

/-- `os_sem_post` of a sender. -/
def post (s : State α) (i : Nat) : Option (State α) :=
  if s.threads[i]? = some .posting then
    some { s with q := { s.q with sem := s.q.sem + 1 }, threads := s.threads.set i .idle }
  else none

/-- `os_sem_pend` of a receiver. -/
def pend (s : State α) (i : Nat) : Option (State α) :=
  if s.threads[i]? = some .idle ∧ s.q.sem ≠ 0 then
    some { s with q := { s.q with sem := s.q.sem - 1 }, threads := s.threads.set i .holding }
  else none

/-- The section of a receiver. -/
def recv (s : State α) (i : Nat) : Option (State α) :=
  if s.threads[i]? = some .holding then
    s.q.take.map fun (x, q) =>
      { q, threads := s.threads.set i .idle, history := s.history ++ [.get x] }
  else none

/-- A receiver that does not get the mutex posts the semaphore. -/
def giveBack (s : State α) (i : Nat) : Option (State α) :=
  if s.threads[i]? = some .holding then
    some { s with q := { s.q with sem := s.q.sem + 1 }, threads := s.threads.set i .idle }
  else none

def reset (s : State α) (i : Nat) : Option (State α) :=
  if s.threads[i]? = some .idle then
    some { s with q := s.q.reset, history := s.history ++ [.clear] }
  else none

def step (s : State α) : Action α → Option (State α)
  | .send i x => send s i x
  | .post i => post s i
  | .pend i => pend s i
  | .recv i => recv s i
  | .giveBack i => giveBack s i
  | .reset i => reset s i

/-! ## What is kept -/

/-- The count and its account, and the items: the queue has the items that a first-in, first-out
queue has after what happened. -/
structure Exact [DecidableEq α] (s : State α) : Prop where
  bounded : s.q.count ≤ s.q.capacity
  account : s.q.count = s.q.sem + s.threads.count .holding + s.threads.count .posting
  fifo : ∃ items, items.length = s.q.count ∧ Ring s.q.buf s.q.head items ∧
    replay [] s.history = some items

/-- The queue is reset only while no thread is between its two steps. -/
def Alone (s : State α) : Action α → Prop
  | .reset _ => ∀ pc ∈ s.threads, pc = .idle
  | _ => True

instance (s : State α) (a : Action α) : Decidable (Alone s a) := by
  cases a using Action.casesOn <;> unfold Alone <;> infer_instance

section Steps

variable {s s' : State α}

/-- The indices of the buffer. -/
structure Indexed (q : JlQueue α) : Prop where
  size : q.buf.length = q.capacity
  width : q.capacity < 2 ^ 32
  head : q.head < q.capacity
  tail : q.tail = (q.head + q.count) % q.capacity

structure QueueInv [DecidableEq α] (s : State α) : Prop extends Exact s where
  indexed : Indexed s.q

variable [DecidableEq α]

theorem send_inv (h : QueueInv s) {i : Nat} {x : α} (hStep : send s i x = some s') :
    QueueInv s' := by
  simp only [send, Option.ite_none_right_eq_some] at hStep
  obtain ⟨hPc, hStep⟩ := hStep
  unfold JlQueue.store at hStep
  split at hStep
  · cases hStep
    exact h
  rename_i q hStore
  simp only [Option.ite_none_right_eq_some] at hStore
  obtain ⟨hRoom, hEq⟩ := hStore
  cases hEq
  cases hStep
  obtain ⟨items, hLen, hRing, hReplay⟩ := h.fifo
  have hWidth := h.indexed.width
  have hSize := h.indexed.size
  have hCount : (s.q.count + 1) % 2 ^ 32 = s.q.count + 1 := Nat.mod_eq_of_lt (by omega)
  have hHolding := Slots.count_set_add (b := Pc.posting) Pc.holding hPc
  have hPosting := Slots.count_set_add (b := Pc.posting) Pc.posting hPc
  have hAccount := h.account
  simp only [reduceCtorEq, if_false, if_true] at hHolding hPosting
  refine ⟨⟨?_, ?_, items ++ [x], ?_, ?_, replay_put hReplay x⟩, ⟨?_, hWidth, h.indexed.head, ?_⟩⟩
  · simp only [hCount]
    omega
  · simp only [hCount]
    omega
  · simp only [hCount, List.length_append, List.length_singleton]
    omega
  · have hPush := hRing.push (by omega) x
    have hTail : (s.q.head + items.length) % s.q.buf.length = s.q.tail := by
      rw [hLen, hSize, h.indexed.tail]
    rw [hTail] at hPush
    exact hPush
  · simpa using hSize
  · simp only [hCount, h.indexed.tail, Nat.mod_add_mod, Nat.add_assoc]

theorem post_inv (h : QueueInv s) {i : Nat} (hStep : post s i = some s') : QueueInv s' := by
  simp only [post, Option.ite_none_right_eq_some] at hStep
  obtain ⟨hPc, hEq⟩ := hStep
  cases hEq
  have hHolding := Slots.count_set_add (b := Pc.idle) Pc.holding hPc
  have hPosting := Slots.count_set_add (b := Pc.idle) Pc.posting hPc
  have hAccount := h.account
  simp only [reduceCtorEq, if_false, if_true] at hHolding hPosting
  refine { h with account := ?_, indexed := { h.indexed with } }
  simp only
  omega

theorem pend_inv (h : QueueInv s) {i : Nat} (hStep : pend s i = some s') : QueueInv s' := by
  simp only [pend, Option.ite_none_right_eq_some] at hStep
  obtain ⟨⟨hPc, hSem⟩, hEq⟩ := hStep
  cases hEq
  have hHolding := Slots.count_set_add (b := Pc.holding) Pc.holding hPc
  have hPosting := Slots.count_set_add (b := Pc.holding) Pc.posting hPc
  have hAccount := h.account
  simp only [reduceCtorEq, if_false, if_true] at hHolding hPosting
  refine { h with account := ?_, indexed := { h.indexed with } }
  simp only
  omega

theorem giveBack_inv (h : QueueInv s) {i : Nat} (hStep : giveBack s i = some s') :
    QueueInv s' := by
  simp only [giveBack, Option.ite_none_right_eq_some] at hStep
  obtain ⟨hPc, hEq⟩ := hStep
  cases hEq
  have hHolding := Slots.count_set_add (b := Pc.idle) Pc.holding hPc
  have hPosting := Slots.count_set_add (b := Pc.idle) Pc.posting hPc
  have hAccount := h.account
  simp only [reduceCtorEq, if_false, if_true] at hHolding hPosting
  refine { h with account := ?_, indexed := { h.indexed with } }
  simp only
  omega

theorem recv_inv (h : QueueInv s) {i : Nat} (hStep : recv s i = some s') : QueueInv s' := by
  simp only [recv, Option.ite_none_right_eq_some] at hStep
  obtain ⟨hPc, hStep⟩ := hStep
  obtain ⟨⟨x, q⟩, hTake, hEq⟩ := Option.map_eq_some_iff.mp hStep
  obtain ⟨y, hFirst, hTaken⟩ := Option.map_eq_some_iff.mp hTake
  cases hTaken
  cases hEq
  obtain ⟨items, hLen, hRing, hReplay⟩ := h.fifo
  have hSize := h.indexed.size
  have hWidth := h.indexed.width
  have hHolding := Slots.count_set_add (b := Pc.idle) Pc.holding hPc
  have hPosting := Slots.count_set_add (b := Pc.idle) Pc.posting hPc
  have hAccount := h.account
  have hBounded := h.bounded
  simp only [reduceCtorEq, if_false, if_true] at hHolding hPosting
  have hCount : (s.q.count + (2 ^ 32 - 1)) % 2 ^ 32 = s.q.count - 1 := by omega
  -- a token stands for an item
  cases items with
  | nil =>
    simp only [List.length_nil] at hLen
    omega
  | cons z items =>
    have hHead : s.q.head < s.q.buf.length := by
      rw [hSize]
      exact h.indexed.head
    have hSame : z = x := Option.some.inj ((hRing.first hHead).symm.trans hFirst)
    subst hSame
    have hPop := hRing.pop
    rw [hSize] at hPop
    simp only [List.length_cons] at hLen
    refine ⟨⟨?_, ?_, items, ?_, hPop, replay_get hReplay⟩, ⟨hSize, hWidth, ?_, ?_⟩⟩
    · simp only [hCount]
      omega
    · simp only [hCount]
      omega
    · simp only [hCount]
      omega
    · exact Nat.mod_lt _ (by omega)
    · have hShift : s.q.head + 1 + (s.q.count - 1) = s.q.head + s.q.count := by omega
      simp only [hCount, h.indexed.tail, Nat.mod_add_mod, hShift]

theorem reset_inv (h : QueueInv s) {i : Nat} (hAlone : ∀ pc ∈ s.threads, pc = .idle)
    (hStep : reset s i = some s') : QueueInv s' := by
  simp only [reset, Option.ite_none_right_eq_some] at hStep
  obtain ⟨-, hEq⟩ := hStep
  cases hEq
  obtain ⟨items, -, -, hReplay⟩ := h.fifo
  have hNone : ∀ pc : Pc, pc ≠ .idle → s.threads.count pc = 0 := fun pc hNe =>
    List.count_eq_zero.mpr fun hMem => hNe (hAlone pc hMem)
  refine ⟨⟨Nat.zero_le _, ?_, [], rfl, .nil _ _, replay_clear hReplay⟩,
    ⟨h.indexed.size, h.indexed.width, ?_, (Nat.zero_mod _).symm⟩⟩
  · show 0 = 0 + s.threads.count .holding + s.threads.count .posting
    rw [hNone .holding nofun, hNone .posting nofun]
  · exact Nat.lt_of_le_of_lt (Nat.zero_le _) h.indexed.head

theorem step_inv {a : Action α} (h : QueueInv s) (hAlone : Alone s a)
    (hStep : step s a = some s') : QueueInv s' := by
  cases a with
  | send i x => exact send_inv h hStep
  | post i => exact post_inv h hStep
  | pend i => exact pend_inv h hStep
  | recv i => exact recv_inv h hStep
  | giveBack i => exact giveBack_inv h hStep
  | reset i => exact reset_inv h hAlone hStep

theorem boot_inv {mem : List α} {q : JlQueue α} (hCreate : jlQueueCreate mem = some q)
    (hWidth : mem.length < 2 ^ 32) (n : Nat) : QueueInv (boot q n) := by
  simp only [jlQueueCreate, Option.ite_none_left_eq_some] at hCreate
  obtain ⟨hLen, hEq⟩ := hCreate
  cases hEq
  have hNone : ∀ pc : Pc, pc ≠ .idle → (List.replicate n Pc.idle).count pc = 0 := fun pc hNe =>
    List.count_eq_zero.mpr fun hMem => hNe (List.eq_of_mem_replicate hMem)
  refine ⟨⟨Nat.zero_le _, ?_, [], rfl, .nil _ _, rfl⟩,
    ⟨rfl, hWidth, Nat.pos_of_ne_zero hLen, (Nat.zero_mod _).symm⟩⟩
  show 0 = 0 + (List.replicate n Pc.idle).count .holding + (List.replicate n Pc.idle).count .posting
  rw [hNone .holding nofun, hNone .posting nofun]

/-- As long as the queue is reset only while no thread is between its two steps, the count stays
within the capacity and is accounted for, and what is received are the items sent and not
reset, first in, first out. -/
theorem queue_exact {mem : List α} {q : JlQueue α} {n : Nat}
    (hCreate : jlQueueCreate mem = some q) (hWidth : mem.length < 2 ^ 32)
    (hRun : Reaches step Alone (boot q n) s) : Exact s :=
  (hRun.invariant (boot_inv hCreate hWidth n) fun _ _ _ => step_inv).toExact

end Steps

section Received

variable [DecidableEq α] {s : State α}

/-- What is received was sent, in this order and no item twice. -/
theorem Exact.received_sublist (h : Exact s) : (gets s.history).Sublist (puts s.history) := by
  obtain ⟨items, -, -, hReplay⟩ := h.fifo
  exact (List.sublist_append_left _ items).trans (replay_sublist hReplay)

/-- Unless the queue was reset, only the items in the queue have not been received. -/
theorem Exact.missing (h : Exact s) (hKept : ∀ e ∈ s.history, e ≠ .clear) :
    (puts s.history).length = (gets s.history).length + s.q.count := by
  obtain ⟨items, hLen, -, hReplay⟩ := h.fifo
  have hBalance := congrArg List.length (replay_balance hReplay hKept)
  rw [List.length_append, List.nil_append, hLen] at hBalance
  exact hBalance.symm

end Received

/-- A queue for two bytes. -/
def twoBytes : JlQueue UInt8 :=
  { buf := [0, 0], capacity := 2, head := 0, tail := 0, count := 0, sem := 0 }

theorem queue_exact_roundTrip :
    ∃ s, Reaches step Alone (boot twoBytes 2) s ∧ s.q.count = 1 ∧ Exact s := by
  obtain ⟨s, hs, hCount⟩ := Option.map_eq_some_iff.mp
    (show (runGuarded step Alone (boot twoBytes 2) [.send 0 7, .post 0, .send 0 8, .pend 1,
      .recv 1]).map (fun s => s.q.count) = some 1 by decide +kernel)
  have hCreate : jlQueueCreate [0, 0] = some twoBytes := rfl
  exact ⟨s, .of_run hs, hCount, queue_exact hCreate (by decide) (.of_run hs)⟩

/-- The queue is reset while a receiver has a token: the receiver takes an item that was reset,
and the count wraps round. -/
theorem not_queue_exact :
    ¬ ∀ (q : JlQueue UInt8) (mem : List UInt8) (n : Nat) (s : State UInt8),
      jlQueueCreate mem = some q → mem.length < 2 ^ 32 → Reaches step anyStep (boot q n) s →
      Exact s := by
  intro h
  obtain ⟨s, hs, hView⟩ := Option.map_eq_some_iff.mp
    (show (run step (boot twoBytes 2) [.send 0 7, .post 0, .pend 1, .reset 0, .recv 1]).map
      (fun s => (s.q.count, s.q.capacity)) = some (2 ^ 32 - 1, 2) by decide +kernel)
  have hBounded := (h twoBytes [0, 0] 2 s rfl (by decide) (.of_plain_run hs)).bounded
  obtain ⟨hCount, hCapacity⟩ := Prod.mk.inj hView
  omega

end EspHosted.Jl.Queue
