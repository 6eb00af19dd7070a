import EspHosted.Lib.Ledger
import EspHosted.Lib.Machine
import Mathlib.Data.List.Count
import Mathlib.Data.List.Nodup

/-!
# The priority queues to the host

Built with `BYPASS_TX_PRIORITY_Q` 0, the co-processor publishes a packet in two steps:
`send_to_host_queue` puts the element into the queue of its class and then the class into
`meta_to_host_queue`. `send_task` takes a class and then the first element of that class.

A packet of the Wi-Fi callbacks or of `host_rcv_pkt` is one element that frees its buffer.
`serial_write_data` cuts its buffer into fragments that all point into it; only the last one frees
it. When a send fails the producer frees the buffer. The packets are numbered; any number of them
may be on their way at once.

* `count_step`: the classes in the meta queue, the one that `send_task` holds and the packets
  between the two sends account for the elements;
* `order_step`: elements leave a queue in the order in which they entered it;
* `ledger_step`: a buffer is in use until its last fragment is processed or its producer frees it;
* `sendQueue_sound`: what the queues promise, in every run in which no send to the meta queue fails
  and none to an element queue while a fragment of the same buffer is still queued.
-/

namespace EspHosted.Coprocessor.SendQueue

open Machine

/-! ## Model -/

inductive PrioQ
  | serial
  | bt
  | others
  deriving DecidableEq

/-- `ETH_DATA_LEN`. -/
def ethDataLen : Nat := 1500

/-- The class and the length of each packet, and `TO_HOST_QUEUE_SIZE`. -/
structure Config where
  queueType : Nat → PrioQ
  len : Nat → Nat
  toHostQueueSize : Nat

/-- A fragment of a packet. -/
structure Elem where
  pkt : Nat
  frag : Nat
  deriving DecidableEq

/-- `MORE_FRAGMENT`: the fragment of a serial buffer is not the last one. -/
def more (cfg : Config) (pkt frag : Nat) : Bool :=
  cfg.queueType pkt == .serial && decide (ethDataLen < cfg.len pkt - frag * ethDataLen)

/-- Where the producer of a packet is: before the first `xQueueSend`, between the two, before it
frees the buffer after a failed send, or behind. `dropped`: the data path was closed. -/
inductive Pc
  | idle
  | sendElem (frag : Nat)
  | sendMeta (frag : Nat)
  | failing (sent : Nat)
  | failed (sent : Nat)
  | done (frag : Nat)
  | dropped
  deriving DecidableEq

/-- Where `send_task` is: before the first `xQueueReceive`, between the two, in `process_tx_pkt`
before the write, and before the free. -/
inductive Task
  | idle
  | received (queueType : PrioQ)
  | writing (e : Elem)
  | freeing (e : Elem)
  deriving DecidableEq

/-- From `freed` on, what happened so far: how often each buffer was freed, the packets between
their two sends, the elements in the order in which they entered their queue, those that were
processed, and those for which `send_to_host_queue` returned `ESP_OK`. -/
structure State where
  datapath : Bool
  toHostQueue : PrioQ → List Elem
  metaToHostQueue : List PrioQ
  pc : Nat → Pc
  task : Task
  freed : Nat → Nat
  between : PrioQ → List Nat
  queued : PrioQ → List Elem
  processed : PrioQ → List Elem
  accepted : List Elem

def boot : State :=
  { datapath := false, toHostQueue := fun _ => [], metaToHostQueue := [], pc := fun _ => .idle
    task := .idle, freed := fun _ => 0, between := fun _ => [], queued := fun _ => []
    processed := fun _ => [], accepted := [] }

def State.setPc (s : State) (pkt : Nat) (pc : Pc) : State :=
  { s with pc := Function.update s.pc pkt pc }

def State.free (s : State) (pkt : Nat) : State :=
  { s with freed := Function.update s.freed pkt (s.freed pkt + 1) }

/-- The Wi-Fi callbacks free what comes while the data path is closed; `host_rcv_pkt` and
`serial_write_data` do not look. -/
def start (cfg : Config) (s : State) (pkt : Nat) : Option State :=
  match s.pc pkt with
  | .idle =>
    if cfg.queueType pkt = .others ∧ s.datapath = false then some ((s.setPc pkt .dropped).free pkt)
    else some (s.setPc pkt (.sendElem 0))
  | _ => none

/-- The first half of `send_to_host_queue`. -/
def sendElem (cfg : Config) (s : State) (pkt : Nat) (ok : Bool) : Option State :=
  match s.pc pkt with
  | .sendElem frag =>
    let c := cfg.queueType pkt
    if !ok then some (s.setPc pkt (.failing frag))
    else if (s.toHostQueue c).length < cfg.toHostQueueSize then
      some { s.setPc pkt (.sendMeta frag) with
        toHostQueue := Function.update s.toHostQueue c (s.toHostQueue c ++ [⟨pkt, frag⟩])
        between := Function.update s.between c (pkt :: s.between c)
        queued := Function.update s.queued c (s.queued c ++ [⟨pkt, frag⟩]) }
    else none
  | _ => none

/-- The second half. A serial class goes to the front. -/
def sendMeta (cfg : Config) (s : State) (pkt : Nat) (ok : Bool) : Option State :=
  match s.pc pkt with
  | .sendMeta frag =>
    let c := cfg.queueType pkt
    let s := { s with between := Function.update s.between c ((s.between c).erase pkt) }
    if !ok then some (s.setPc pkt (.failing (frag + 1)))
    else if s.metaToHostQueue.length < cfg.toHostQueueSize * 3 then
      some { s.setPc pkt (if more cfg pkt frag then .sendElem (frag + 1) else .done frag) with
        metaToHostQueue :=
          if c = .serial then c :: s.metaToHostQueue else s.metaToHostQueue ++ [c]
        accepted := s.accepted ++ [⟨pkt, frag⟩] }
    else none
  | _ => none

/-- A producer frees its buffer after a failed send. -/
def cleanup (s : State) (pkt : Nat) : Option State :=
  match s.pc pkt with
  | .failing sent => some ((s.setPc pkt (.failed sent)).free pkt)
  | _ => none

def receiveMeta (s : State) : Option State :=
  match s.task, s.metaToHostQueue with
  | .idle, c :: rest =>
    if s.datapath then some { s with task := .received c, metaToHostQueue := rest } else none
  | _, _ => none

def receiveElem (s : State) : Option State :=
  match s.task with
  | .received c =>
    match s.toHostQueue c with
    | [] => none
    | e :: rest =>
      some { s with task := .writing e, toHostQueue := Function.update s.toHostQueue c rest }
  | _ => none

/-- `process_tx_pkt` up to the free; the results of the write and of the wake-up do not matter. -/
def write (s : State) : Option State :=
  match s.task with
  | .writing e => some { s with task := .freeing e }
  | _ => none

/-- `free_buf_handle`, which is set on the last fragment. -/
def freeBuf (cfg : Config) (s : State) : Option State :=
  match s.task with
  | .freeing e =>
    let c := cfg.queueType e.pkt
    let s := { s with task := .idle
                      processed := Function.update s.processed c (s.processed c ++ [e]) }
    some (if more cfg e.pkt e.frag then s else s.free e.pkt)
  | _ => none

inductive Action
  | setDatapath (isOpen : Bool)
  | start (pkt : Nat)
  | sendElem (pkt : Nat) (ok : Bool)
  | sendMeta (pkt : Nat) (ok : Bool)
  | cleanup (pkt : Nat)
  | receiveMeta
  | receiveElem
  | write
  | freeBuf
  deriving DecidableEq

def step (cfg : Config) (s : State) : Action → Option State
  | .setDatapath isOpen => some { s with datapath := isOpen }
  | .start pkt => start cfg s pkt
  | .sendElem pkt ok => sendElem cfg s pkt ok
  | .sendMeta pkt ok => sendMeta cfg s pkt ok
  | .cleanup pkt => cleanup s pkt
  | .receiveMeta => receiveMeta s
  | .receiveElem => receiveElem s
  | .write => write s
  | .freeBuf => freeBuf cfg s

/-! ## What is kept -/

/-- The element that `send_task` has in its hands. -/
def Task.hand : Task → List Elem
  | .writing e | .freeing e => [e]
  | _ => []

/-- The class that `send_task` has received. -/
def Task.held : Task → List PrioQ
  | .received c => [c]
  | _ => []

/-- A fragment of the packet is queued, or `send_task` works on it. -/
def InFlight (cfg : Config) (s : State) (pkt : Nat) : Prop :=
  ∃ e ∈ s.task.hand ++ s.toHostQueue (cfg.queueType pkt), e.pkt = pkt

instance (cfg : Config) (s : State) (pkt : Nat) : Decidable (InFlight cfg s pkt) := by
  unfold InFlight
  infer_instance

/-- The producer has returned. -/
def Pc.returned : Pc → Bool
  | .failed _ | .done _ | .dropped => true
  | _ => false

/-- The producer has sent an element without its class. -/
def Pc.isBetween : Pc → Bool
  | .sendMeta _ => true
  | _ => false

structure Sound (cfg : Config) (s : State) : Prop where
  meta_le : ∀ c, (s.task.held ++ s.metaToHostQueue).count c ≤ (s.toHostQueue c).length
  fifo : ∀ c, s.processed c ++ (s.task.hand.filter fun e => cfg.queueType e.pkt = c) ++
    s.toHostQueue c = s.queued c
  once : ∀ c, (s.queued c).Nodup
  accepted : ∀ e ∈ s.accepted, e ∈ s.queued (cfg.queueType e.pkt)
  drained : s.metaToHostQueue = [] → s.task = .idle → (∀ pkt, (s.pc pkt).isBetween = false) →
    ∀ e ∈ s.accepted, e ∈ s.processed (cfg.queueType e.pkt)
  freed_once : ∀ pkt, s.freed pkt ≤ 1
  freed_settled : ∀ pkt, (s.pc pkt).returned = true → ¬ InFlight cfg s pkt → s.freed pkt = 1
  not_dangling : ∀ pkt, InFlight cfg s pkt → s.freed pkt = 0

/-- No send to the meta queue fails, and none to an element queue while a fragment of the same
buffer is in flight. -/
def Unbroken (cfg : Config) (s : State) : Action → Prop
  | .sendElem pkt ok => ok = false → ¬ InFlight cfg s pkt
  | .sendMeta _ ok => ok = true
  | _ => True

instance (cfg : Config) (s : State) (a : Action) : Decidable (Unbroken cfg s a) := by
  unfold Unbroken
  split <;> infer_instance

/-! ## Counting -/

/-- Every element has its class in the meta queue or in the hands of `send_task`, or its producer
is between the two sends. -/
structure Counted (cfg : Config) (s : State) : Prop where
  count : ∀ c, (s.task.held ++ s.metaToHostQueue).count c + (s.between c).length =
    (s.toHostQueue c).length
  between : ∀ c pkt, pkt ∈ s.between c ↔ (s.pc pkt).isBetween = true ∧ cfg.queueType pkt = c
  nodup : ∀ c, (s.between c).Nodup

section Count

variable {cfg : Config} {s s' : State} {a : Action}

/-- Neither the queues nor a producer between its sends are touched. -/
theorem Counted.setPc (h : Counted cfg s) (pkt : Nat) (pc : Pc)
    (hOld : (s.pc pkt).isBetween = false) (hNew : pc.isBetween = false) :
    Counted cfg (s.setPc pkt pc) := by
  refine ⟨h.count, fun c other => (h.between c other).trans ?_, h.nodup⟩
  show _ ↔ (Function.update s.pc pkt pc other).isBetween = true ∧ _
  by_cases hEq : other = pkt
  · rw [hEq, Function.update_self, hOld, hNew]
  · rw [Function.update_of_ne hEq]

theorem Counted.sendElem {pkt : Nat} {ok : Bool} (h : Counted cfg s)
    (hStep : sendElem cfg s pkt ok = some s') : Counted cfg s' := by
  simp only [SendQueue.sendElem] at hStep
  split at hStep
  · rename_i frag hPc
    have hOld : (s.pc pkt).isBetween = false := by rw [hPc]; rfl
    split at hStep
    · cases hStep
      exact h.setPc _ _ hOld rfl
    · split at hStep
      · cases hStep
        refine ⟨fun c => ?_, fun c other => ?_, fun c => ?_⟩
        · have hCount := h.count c
          by_cases hEq : c = cfg.queueType pkt
          · subst hEq
            simp only [Function.update_self, List.length_cons, List.length_append,
              List.length_nil, State.setPc]
            omega
          · simpa only [Function.update_of_ne hEq, State.setPc] using hCount
        · have hBetween := h.between c other
          simp only [State.setPc, Function.update_apply]
          grind [Pc.isBetween]
        · have hNodup := h.nodup c
          have hNew := h.between c pkt
          simp only [Function.update_apply]
          grind
      · cases hStep
  · cases hStep

/-- A class goes to either end of the meta queue. -/
theorem count_publish (held q : List PrioQ) (c c' : PrioQ) :
    (held ++ if c = .serial then c :: q else q ++ [c]).count c' =
      (held ++ q).count c' + if c = c' then 1 else 0 := by
  split
  · rw [List.count_append, List.count_append, List.count_cons]
    simp only [beq_iff_eq]
    omega
  · rw [List.count_append, List.count_append, List.count_append, List.count_singleton]
    simp only [beq_iff_eq]
    omega

theorem Counted.sendMeta {pkt : Nat} (h : Counted cfg s)
    (hStep : sendMeta cfg s pkt true = some s') : Counted cfg s' := by
  simp only [SendQueue.sendMeta] at hStep
  split at hStep
  · rename_i frag hPc
    have hMem : pkt ∈ s.between (cfg.queueType pkt) := by
      rw [h.between, hPc]
      exact ⟨rfl, rfl⟩
    have hLength := List.length_erase_of_mem hMem
    have hPos := List.length_pos_of_mem hMem
    simp only [Bool.not_true, Bool.false_eq_true, if_false, Option.ite_none_right_eq_some] at hStep
    obtain ⟨-, hEq⟩ := hStep
    cases hEq
    refine ⟨fun c => ?_, fun c other => ?_, fun c => ?_⟩
    · have hCount := h.count c
      refine Eq.trans (congrArg (· + _) (count_publish ..)) ?_
      by_cases hEq : c = cfg.queueType pkt
      · subst hEq
        simp only [State.setPc, Function.update_self, if_true]
        omega
      · simpa only [State.setPc, Function.update_of_ne hEq, if_neg (Ne.symm hEq), Nat.add_zero]
          using hCount
    · have hBetween := h.between c other
      have hNodup := h.nodup c
      simp only [State.setPc, Function.update_apply]
      grind [Pc.isBetween]
    · have hNodup := h.nodup c
      simp only [State.setPc, Function.update_apply]
      grind
  · cases hStep

theorem Counted.receiveMeta (h : Counted cfg s) (hStep : receiveMeta s = some s') :
    Counted cfg s' := by
  simp only [SendQueue.receiveMeta] at hStep
  split at hStep
  · rename_i c rest hTask hMeta
    simp only [Option.ite_none_right_eq_some] at hStep
    obtain ⟨-, hEq⟩ := hStep
    cases hEq
    refine ⟨fun c' => ?_, h.between, h.nodup⟩
    have hCount := h.count c'
    rwa [hTask, hMeta] at hCount
  · cases hStep

theorem Counted.receiveElem (h : Counted cfg s) (hStep : receiveElem s = some s') :
    Counted cfg s' := by
  simp only [SendQueue.receiveElem] at hStep
  split at hStep
  · rename_i c hTask
    split at hStep
    · cases hStep
    · rename_i e rest hQueue
      cases hStep
      refine ⟨fun c' => ?_, h.between, h.nodup⟩
      have hCount := h.count c'
      rw [hTask] at hCount
      by_cases hEq : c' = c
      · subst hEq
        simp only [Task.held, List.singleton_append, List.count_cons_self, hQueue,
          List.length_cons] at hCount
        simp only [Task.held, List.nil_append, Function.update_self]
        omega
      · simp only [Task.held, List.singleton_append, List.count_cons_of_ne (Ne.symm hEq)] at hCount
        simpa only [Task.held, List.nil_append, Function.update_of_ne hEq] using hCount
  · cases hStep

/-- `send_task` holds no class while it works on an element. -/
theorem Counted.setTask {t : Task} (h : Counted cfg s) (hOld : s.task.held = [])
    (hNew : t.held = []) : Counted cfg { s with task := t } := by
  refine ⟨fun c => ?_, h.between, h.nodup⟩
  have hCount := h.count c
  rw [hOld] at hCount
  show (t.held ++ s.metaToHostQueue).count c + _ = _
  rwa [hNew]

theorem count_step (h : Counted cfg s) (hUnbroken : Unbroken cfg s a)
    (hStep : step cfg s a = some s') : Counted cfg s' := by
  cases a with
  | setDatapath isOpen =>
    cases hStep
    exact ⟨h.count, h.between, h.nodup⟩
  | start pkt =>
    simp only [step, start] at hStep
    split at hStep
    · rename_i hPc
      have hOld : (s.pc pkt).isBetween = false := by rw [hPc]; rfl
      split at hStep
      · cases hStep
        have hDropped := h.setPc pkt .dropped hOld rfl
        exact ⟨hDropped.count, hDropped.between, hDropped.nodup⟩
      · cases hStep
        exact h.setPc _ _ hOld rfl
    · cases hStep
  | sendElem pkt ok => exact h.sendElem hStep
  | sendMeta pkt ok =>
    cases (show ok = true from hUnbroken)
    exact h.sendMeta hStep
  | cleanup pkt =>
    simp only [step, cleanup] at hStep
    split at hStep
    · rename_i sent hPc
      cases hStep
      have hFailed := h.setPc pkt (.failed sent) (by rw [hPc]; rfl) rfl
      exact ⟨hFailed.count, hFailed.between, hFailed.nodup⟩
    · cases hStep
  | receiveMeta => exact h.receiveMeta hStep
  | receiveElem => exact h.receiveElem hStep
  | write =>
    simp only [step, write] at hStep
    split at hStep
    · rename_i e hTask
      cases hStep
      exact h.setTask (by rw [hTask]; rfl) rfl
    · cases hStep
  | freeBuf =>
    simp only [step, freeBuf] at hStep
    split at hStep
    · rename_i e hTask
      have hIdle := h.setTask (t := .idle) (by rw [hTask]; rfl) rfl
      split at hStep
      · cases hStep
        exact ⟨hIdle.count, hIdle.between, hIdle.nodup⟩
      · cases hStep
        exact ⟨hIdle.count, hIdle.between, hIdle.nodup⟩
    · cases hStep

end Count

/-! ## Order -/

/-- How many fragments of the packet have entered the queue. -/
def Pc.sent : Pc → Nat
  | .idle | .dropped => 0
  | .sendElem frag => frag
  | .sendMeta frag | .done frag => frag + 1
  | .failing sent | .failed sent => sent

/-- What `send_task` has in its hands, if it is of the class. -/
def State.inHand (cfg : Config) (s : State) (c : PrioQ) : List Elem :=
  s.task.hand.filter fun e => cfg.queueType e.pkt = c

/-- Elements leave their queue in the order in which they entered it, and the fragments of a packet
entered it one after the other. -/
structure Ordered (cfg : Config) (s : State) : Prop where
  order : ∀ c, s.processed c ++ s.inHand cfg c ++ s.toHostQueue c = s.queued c
  queueType : ∀ c, ∀ e ∈ s.queued c, cfg.queueType e.pkt = c
  frags : ∀ pkt, (s.queued (cfg.queueType pkt)).filter (fun e => e.pkt = pkt) =
    (List.range (s.pc pkt).sent).map (Elem.mk pkt)
  accepted : ∀ e ∈ s.accepted, e ∈ s.queued (cfg.queueType e.pkt)

section Order

variable {cfg : Config} {s s' : State} {a : Action}

theorem Ordered.setPc (h : Ordered cfg s) (pkt : Nat) (pc : Pc)
    (hSent : pc.sent = (s.pc pkt).sent) : Ordered cfg (s.setPc pkt pc) := by
  refine ⟨h.order, h.queueType, fun other => (h.frags other).trans ?_, h.accepted⟩
  show _ = (List.range (Function.update s.pc pkt pc other).sent).map _
  by_cases hEq : other = pkt
  · rw [hEq, Function.update_self, hSent]
  · rw [Function.update_of_ne hEq]

theorem Ordered.sendElem {pkt : Nat} {ok : Bool} (h : Ordered cfg s)
    (hStep : sendElem cfg s pkt ok = some s') : Ordered cfg s' := by
  simp only [SendQueue.sendElem] at hStep
  split at hStep
  · rename_i frag hPc
    split at hStep
    · cases hStep
      exact h.setPc _ _ (by rw [hPc]; rfl)
    · split at hStep
      · cases hStep
        refine ⟨fun c => ?_, fun c e hMem => ?_, fun other => ?_, fun e hMem => ?_⟩
        · show s.processed c ++ s.inHand cfg c ++ Function.update s.toHostQueue _ _ c =
            Function.update s.queued _ _ c
          by_cases hEq : c = cfg.queueType pkt
          · subst hEq
            rw [Function.update_self, Function.update_self, ← h.order, List.append_assoc]
            simp only [List.append_assoc]
          · rw [Function.update_of_ne hEq, Function.update_of_ne hEq]
            exact h.order c
        · have hOld := h.queueType c e
          simp only [Function.update_apply] at hMem
          grind
        · have hFrags := h.frags other
          simp only [State.setPc, Function.update_apply]
          by_cases hEq : other = pkt
          · subst hEq
            rw [hPc] at hFrags
            rw [if_pos rfl, if_pos rfl, List.filter_append, hFrags, List.filter_singleton]
            simp [Pc.sent, List.range_succ]
          · rw [if_neg hEq, ← hFrags]
            split
            · rename_i hClass
              rw [hClass, List.filter_append, List.filter_singleton]
              simp [Ne.symm hEq]
            · rfl
        · have hOld := h.accepted e hMem
          simp only [Function.update_apply]
          grind
      · cases hStep
  · cases hStep

/-- Between the two sends of a fragment it is in the queue. -/
theorem Ordered.mem_queued {pkt frag : Nat} (h : Ordered cfg s) (hFrag : frag < (s.pc pkt).sent) :
    ⟨pkt, frag⟩ ∈ s.queued (cfg.queueType pkt) := by
  have hMem : (⟨pkt, frag⟩ : Elem) ∈
      (s.queued (cfg.queueType pkt)).filter (fun e => e.pkt = pkt) := by
    rw [h.frags]
    exact List.mem_map.mpr ⟨frag, List.mem_range.mpr hFrag, rfl⟩
  exact (List.mem_filter.mp hMem).1

theorem Ordered.sendMeta {pkt : Nat} {ok : Bool} (h : Ordered cfg s)
    (hStep : sendMeta cfg s pkt ok = some s') : Ordered cfg s' := by
  simp only [SendQueue.sendMeta] at hStep
  split at hStep
  · rename_i frag hPc
    split at hStep
    · cases hStep
      have hFailing := h.setPc pkt (.failing (frag + 1)) (by rw [hPc]; rfl)
      exact ⟨hFailing.order, hFailing.queueType, hFailing.frags, hFailing.accepted⟩
    · split at hStep
      · cases hStep
        have hNext := h.setPc pkt (if more cfg pkt frag then .sendElem (frag + 1) else .done frag)
          (by rw [hPc]; split <;> rfl)
        refine ⟨hNext.order, hNext.queueType, hNext.frags, fun e hMem => ?_⟩
        rcases List.mem_append.mp hMem with hOld | hNew
        · exact h.accepted e hOld
        · cases List.mem_singleton.mp hNew
          exact h.mem_queued (by rw [hPc]; exact Nat.lt_succ_self _)
      · cases hStep
  · cases hStep

theorem Ordered.receiveElem (h : Ordered cfg s) (hStep : receiveElem s = some s') :
    Ordered cfg s' := by
  simp only [SendQueue.receiveElem] at hStep
  split at hStep
  · rename_i c hTask
    split at hStep
    · cases hStep
    · rename_i e rest hQueue
      cases hStep
      refine ⟨fun c' => ?_, h.queueType, h.frags, h.accepted⟩
      have hClass : cfg.queueType e.pkt = c := by
        refine h.queueType c e ?_
        rw [← h.order, hQueue]
        simp
      have hOrder := h.order c'
      simp only [State.inHand, hTask, Task.hand, List.filter_nil, List.append_nil] at hOrder
      simp only [State.inHand, Task.hand, List.filter_singleton, hClass]
      by_cases hEq : c' = c
      · subst hEq
        rw [hQueue] at hOrder
        simp [← hOrder]
      · simp [Function.update_of_ne hEq, Ne.symm hEq, hOrder]
  · cases hStep

/-- What `send_task` has in its hands does not change. -/
theorem Ordered.setTask {t : Task} (h : Ordered cfg s) (hHand : t.hand = s.task.hand) :
    Ordered cfg { s with task := t } := by
  refine ⟨fun c => ?_, h.queueType, h.frags, h.accepted⟩
  have hOrder := h.order c
  unfold State.inHand at hOrder ⊢
  rwa [hHand]

theorem Ordered.processed {e : Elem} (h : Ordered cfg s) (hTask : s.task = .freeing e) :
    Ordered cfg { s with
      task := .idle
      processed := Function.update s.processed (cfg.queueType e.pkt)
        (s.processed (cfg.queueType e.pkt) ++ [e]) } := by
  refine ⟨fun c => ?_, h.queueType, h.frags, h.accepted⟩
  have hOrder := h.order c
  simp only [State.inHand, hTask, Task.hand, List.filter_singleton] at hOrder
  by_cases hEq : c = cfg.queueType e.pkt
  · subst hEq
    simpa [State.inHand, Task.hand] using hOrder
  · simpa [State.inHand, Task.hand, Function.update_of_ne hEq, Ne.symm hEq] using hOrder

theorem order_step (h : Ordered cfg s) (hStep : step cfg s a = some s') : Ordered cfg s' := by
  cases a with
  | setDatapath isOpen =>
    cases hStep
    exact ⟨h.order, h.queueType, h.frags, h.accepted⟩
  | start pkt =>
    simp only [step, start] at hStep
    split at hStep
    · rename_i hPc
      split at hStep
      · cases hStep
        have hDropped := h.setPc pkt .dropped (by rw [hPc]; rfl)
        exact ⟨hDropped.order, hDropped.queueType, hDropped.frags, hDropped.accepted⟩
      · cases hStep
        exact h.setPc _ _ (by rw [hPc]; rfl)
    · cases hStep
  | sendElem pkt ok => exact h.sendElem hStep
  | sendMeta pkt ok => exact h.sendMeta hStep
  | cleanup pkt =>
    simp only [step, cleanup] at hStep
    split at hStep
    · rename_i sent hPc
      cases hStep
      have hFailed := h.setPc pkt (.failed sent) (by rw [hPc]; rfl)
      exact ⟨hFailed.order, hFailed.queueType, hFailed.frags, hFailed.accepted⟩
    · cases hStep
  | receiveMeta =>
    simp only [step, receiveMeta] at hStep
    split at hStep
    · rename_i c rest hTask hMeta
      simp only [Option.ite_none_right_eq_some] at hStep
      obtain ⟨-, hEq⟩ := hStep
      cases hEq
      have hReceived := h.setTask (t := .received c) (by rw [hTask]; rfl)
      exact ⟨hReceived.order, hReceived.queueType, hReceived.frags, hReceived.accepted⟩
    · cases hStep
  | receiveElem => exact h.receiveElem hStep
  | write =>
    simp only [step, write] at hStep
    split at hStep
    · rename_i e hTask
      cases hStep
      exact h.setTask (by rw [hTask]; rfl)
    · cases hStep
  | freeBuf =>
    simp only [step, freeBuf] at hStep
    split at hStep
    · rename_i e hTask
      have hDone := h.processed hTask
      split at hStep
      · cases hStep
        exact hDone
      · cases hStep
        exact ⟨hDone.order, hDone.queueType, hDone.frags, hDone.accepted⟩
    · cases hStep

end Order

/-! ## Ownership -/

/-- The producer still has fragments to send, or has to free the buffer. -/
def Pc.busy (cfg : Config) (pkt : Nat) : Pc → Bool
  | .idle | .sendElem _ | .failing _ => true
  | .sendMeta frag => more cfg pkt frag
  | _ => false

/-- The buffer must not be freed yet. -/
def Used (cfg : Config) (s : State) (pkt : Nat) : Prop :=
  (s.pc pkt).busy cfg pkt = true ∨ InFlight cfg s pkt

/-- All fragments but the last of a packet that was sent have `MORE_FRAGMENT`. -/
def Pc.Fits (cfg : Config) (pkt : Nat) : Pc → Prop
  | .sendElem frag | .sendMeta frag => ∀ j < frag, more cfg pkt j = true
  | .done frag => more cfg pkt frag = false ∧ ∀ j < frag, more cfg pkt j = true
  | _ => True

/-- A send to an element queue has failed. -/
def Pc.broken : Pc → Bool
  | .failing _ | .failed _ => true
  | _ => false

structure Owned (cfg : Config) (s : State) : Prop where
  fits : ∀ pkt, (s.pc pkt).Fits cfg pkt
  broken : ∀ pkt, (s.pc pkt).broken = true → ¬ InFlight cfg s pkt
  ledger : Ledger (Used cfg s) (fun pkt => ¬ Used cfg s pkt) s.freed

section Ownership

variable {cfg : Config} {s s' : State} {a : Action}

/-- An element that was cut out of the fragments of a packet. -/
theorem length_after {before after : List Elem} {pkt n : Nat} {e : Elem}
    (h : before ++ e :: after = (List.range n).map (Elem.mk pkt)) :
    e.frag + 1 + after.length = n := by
  have hLength := congrArg List.length h
  have hAt := congrArg (fun l => l[before.length]?) h
  simp only [List.length_append, List.length_cons, List.length_map, List.length_range] at hLength
  simp only [List.getElem?_append_right (Nat.le_refl _), Nat.sub_self, List.getElem?_cons_zero,
    List.getElem?_map, List.getElem?_range (show before.length < n by omega), Option.map_some,
    Option.some.injEq] at hAt
  rw [hAt]
  show before.length + 1 + after.length = n
  omega

theorem Ordered.frag_lt {e : Elem} (h : Ordered cfg s)
    (hMem : e ∈ s.task.hand ++ s.toHostQueue (cfg.queueType e.pkt)) :
    e.frag < (s.pc e.pkt).sent := by
  have hQueued : e ∈ s.queued (cfg.queueType e.pkt) := by
    rw [← h.order]
    rcases List.mem_append.mp hMem with hHand | hQueue
    · exact List.mem_append_left _ (List.mem_append_right _
        (List.mem_filter.mpr ⟨hHand, decide_eq_true rfl⟩))
    · exact List.mem_append_right _ hQueue
  have hFrag : e ∈ (s.queued (cfg.queueType e.pkt)).filter (fun e' => e'.pkt = e.pkt) :=
    List.mem_filter.mpr ⟨hQueued, decide_eq_true rfl⟩
  rw [h.frags] at hFrag
  obtain ⟨frag, hRange, hEq⟩ := List.mem_map.mp hFrag
  rw [← hEq]
  exact List.mem_range.mp hRange

theorem Ordered.not_inFlight {pkt : Nat} (h : Ordered cfg s) (hSent : (s.pc pkt).sent = 0) :
    ¬ InFlight cfg s pkt := by
  rintro ⟨e, hMem, rfl⟩
  have hLt := h.frag_lt hMem
  omega

/-- Nothing changes for other packets. -/
def SameFor (cfg : Config) (s s' : State) (pkt : Nat) : Prop :=
  s'.pc pkt = s.pc pkt ∧ (InFlight cfg s' pkt ↔ InFlight cfg s pkt)

theorem SameFor.used {pkt : Nat} (h : SameFor cfg s s' pkt) : Used cfg s' pkt ↔ Used cfg s pkt := by
  unfold Used
  rw [h.1, h.2]

theorem Owned.fits_broken {pkt : Nat} (h : Owned cfg s)
    (hOther : ∀ other, other ≠ pkt → SameFor cfg s s' other)
    (hFits : (s'.pc pkt).Fits cfg pkt)
    (hBroken : (s'.pc pkt).broken = true → ¬ InFlight cfg s' pkt) :
    (∀ other, (s'.pc other).Fits cfg other) ∧
      ∀ other, (s'.pc other).broken = true → ¬ InFlight cfg s' other := by
  refine ⟨fun other => ?_, fun other => ?_⟩
  · by_cases hEq : other = pkt
    · rwa [hEq]
    · rw [(hOther other hEq).1]
      exact h.fits other
  · by_cases hEq : other = pkt
    · rwa [hEq]
    · rw [(hOther other hEq).1, (hOther other hEq).2]
      exact h.broken other

/-- A step that frees nothing keeps the buffer of the packet in use, or out of it. -/
theorem Owned.keep (h : Owned cfg s) (pkt : Nat)
    (hOther : ∀ other, other ≠ pkt → SameFor cfg s s' other)
    (hFits : (s'.pc pkt).Fits cfg pkt)
    (hBroken : (s'.pc pkt).broken = true → ¬ InFlight cfg s' pkt)
    (hUsed : Used cfg s' pkt ↔ Used cfg s pkt) (hFreed : s'.freed = s.freed) : Owned cfg s' := by
  have hAll : ∀ other, Used cfg s' other ↔ Used cfg s other := by
    intro other
    by_cases hEq : other = pkt
    · rwa [hEq]
    · exact (hOther other hEq).used
  obtain ⟨hFitsAll, hBrokenAll⟩ := h.fits_broken hOther hFits hBroken
  refine ⟨hFitsAll, hBrokenAll, ?_⟩
  rw [hFreed]
  exact h.ledger.keep (fun k => (hAll k).mp) fun k hk => (hAll k).not.mp hk

/-- A step that frees the buffer of the packet ends its use. -/
theorem Owned.release (h : Owned cfg s) (pkt : Nat)
    (hOther : ∀ other, other ≠ pkt → SameFor cfg s s' other)
    (hFits : (s'.pc pkt).Fits cfg pkt) (hWas : Used cfg s pkt) (hNot : ¬ Used cfg s' pkt)
    (hFreed : s'.freed = Function.update s.freed pkt (s.freed pkt + 1)) : Owned cfg s' := by
  obtain ⟨hFitsAll, hBrokenAll⟩ := h.fits_broken hOther hFits fun _ hIn => hNot (.inr hIn)
  refine ⟨hFitsAll, hBrokenAll, ?_⟩
  rw [hFreed]
  refine h.ledger.releaseOne hWas ?_ ?_
  · intro other hUsed
    have hNe : other ≠ pkt := by
      rintro rfl
      exact hNot hUsed
    exact ⟨(hOther other hNe).used.mp hUsed, hNe⟩
  · intro other hUnused
    by_cases hEq : other = pkt
    · exact .inr hEq
    · exact .inl fun hUsed => hUnused ((hOther other hEq).used.mpr hUsed)

theorem sameFor_setPc {pkt other : Nat} {pc : Pc} (hNe : other ≠ pkt) :
    SameFor cfg s (s.setPc pkt pc) other :=
  ⟨Function.update_of_ne hNe .., Iff.rfl⟩

/-- Only a producer moves. -/
theorem Owned.setPc {pkt : Nat} {pc : Pc} (h : Owned cfg s) (hFits : pc.Fits cfg pkt)
    (hBroken : pc.broken = true → ¬ InFlight cfg s pkt)
    (hBusy : pc.busy cfg pkt = (s.pc pkt).busy cfg pkt) : Owned cfg (s.setPc pkt pc) := by
  have hPc : (s.setPc pkt pc).pc pkt = pc := Function.update_self ..
  refine h.keep pkt (fun _ => sameFor_setPc) (hPc.symm ▸ hFits) (hPc.symm ▸ hBroken) ?_ rfl
  unfold Used
  rw [hPc, hBusy]
  exact Iff.rfl

/-- A producer frees its buffer. -/
theorem Owned.freeByProducer {pkt : Nat} {pc : Pc} (h : Owned cfg s) (hFits : pc.Fits cfg pkt)
    (hNone : ¬ InFlight cfg s pkt) (hOld : (s.pc pkt).busy cfg pkt = true)
    (hNew : pc.busy cfg pkt = false) : Owned cfg ((s.setPc pkt pc).free pkt) := by
  have hPc : ((s.setPc pkt pc).free pkt).pc pkt = pc := Function.update_self ..
  refine h.release pkt (fun _ => sameFor_setPc) (hPc.symm ▸ hFits) (.inl hOld) ?_ rfl
  unfold Used
  rw [hPc, hNew]
  exact not_or_intro Bool.false_ne_true hNone

theorem Owned.sendElem {pkt : Nat} {ok : Bool} (h : Owned cfg s)
    (hUnbroken : ok = false → ¬ InFlight cfg s pkt)
    (hStep : sendElem cfg s pkt ok = some s') : Owned cfg s' := by
  simp only [SendQueue.sendElem] at hStep
  split at hStep
  · rename_i frag hPc
    have hFits := h.fits pkt
    have hUsed : Used cfg s pkt := .inl (by rw [hPc]; rfl)
    rw [hPc] at hFits
    split at hStep
    · rename_i hOk
      cases hStep
      exact h.setPc trivial (fun _ => hUnbroken (by simpa using hOk)) (by rw [hPc]; rfl)
    · split at hStep
      · cases hStep
        -- the new element belongs to the packet itself
        refine h.keep pkt (fun other hNe => ⟨Function.update_of_ne hNe .., ?_⟩) ?_ ?_ ?_ rfl
        · simp only [InFlight, State.setPc, Function.update_apply]
          split
          · rename_i hClass
            rw [hClass]
            simp [or_and_right, exists_or, Ne.symm hNe]
          · exact Iff.rfl
        · simp only [State.setPc, Function.update_self]
          exact hFits
        · simp only [State.setPc, Function.update_self]
          nofun
        · refine iff_of_true (.inr ⟨⟨pkt, frag⟩, ?_, rfl⟩) hUsed
          simp
      · cases hStep
  · cases hStep

theorem Owned.sendMeta {pkt : Nat} (h : Owned cfg s)
    (hStep : sendMeta cfg s pkt true = some s') : Owned cfg s' := by
  simp only [SendQueue.sendMeta] at hStep
  split at hStep
  · rename_i frag hPc
    simp only [Bool.not_true, Bool.false_eq_true, if_false, Option.ite_none_right_eq_some] at hStep
    obtain ⟨-, hEq⟩ := hStep
    have hFits : ∀ j < frag, more cfg pkt j = true := by
      have hOld := h.fits pkt
      rwa [hPc] at hOld
    have hNext : Owned cfg (s.setPc pkt
        (if more cfg pkt frag then .sendElem (frag + 1) else .done frag)) := by
      cases hMore : more cfg pkt frag
      · exact h.setPc ⟨hMore, hFits⟩ nofun (by rw [hPc]; exact hMore.symm)
      · refine h.setPc (fun j hj => ?_) nofun (by rw [hPc]; exact hMore.symm)
        rcases Nat.lt_succ_iff_lt_or_eq.mp hj with hLess | hLast
        · exact hFits j hLess
        · rwa [hLast]
    cases hEq
    exact ⟨hNext.fits, hNext.broken, hNext.ledger⟩
  · cases hStep

/-- The elements of a packet are only handed over. -/
theorem Owned.sameInFlight (h : Owned cfg s) (hPc : s'.pc = s.pc)
    (hIn : ∀ pkt, InFlight cfg s' pkt ↔ InFlight cfg s pkt) (hFreed : s'.freed = s.freed) :
    Owned cfg s' := by
  have hSame : ∀ pkt, SameFor cfg s s' pkt := fun pkt => ⟨congrFun hPc pkt, hIn pkt⟩
  refine h.keep 0 (fun other _ => hSame other) ?_ ?_ (hSame 0).used hFreed
  · rw [hPc]
    exact h.fits 0
  · rw [hPc, hIn]
    exact h.broken 0

theorem Owned.receiveElem (h : Owned cfg s) (hOrdered : Ordered cfg s)
    (hStep : receiveElem s = some s') : Owned cfg s' := by
  simp only [SendQueue.receiveElem] at hStep
  split at hStep
  · rename_i c hTask
    split at hStep
    · cases hStep
    · rename_i e rest hQueue
      cases hStep
      have hClass : cfg.queueType e.pkt = c := by
        refine hOrdered.queueType c e ?_
        rw [← hOrdered.order, hQueue]
        simp
      refine h.sameInFlight rfl (fun pkt => ?_) rfl
      simp only [InFlight, hTask, Task.hand, List.nil_append]
      by_cases hEq : cfg.queueType pkt = c
      · rw [hEq, Function.update_self, hQueue]
        rfl
      · have hNe : e.pkt ≠ pkt := by
          rintro rfl
          exact hEq hClass
        rw [Function.update_of_ne hEq]
        simp [hNe]
  · cases hStep

/-- With the last fragment in hand, the producer needs the buffer no longer and nothing else of the
packet is queued. -/
theorem Owned.last_in_hand {e : Elem} (h : Owned cfg s) (hIn : InFlight cfg s e.pkt)
    (hFrag : e.frag < (s.pc e.pkt).sent) (hLast : more cfg e.pkt e.frag = false) :
    (s.pc e.pkt).busy cfg e.pkt = false ∧ (s.pc e.pkt).sent = e.frag + 1 := by
  have hFits := h.fits e.pkt
  have hBroken := h.broken e.pkt
  generalize s.pc e.pkt = pc at hFrag hFits hBroken ⊢
  have hNotLess : ∀ n, (∀ j < n, more cfg e.pkt j = true) → ¬ e.frag < n := fun n hMore hLess =>
    Bool.false_ne_true (hLast.symm.trans (hMore _ hLess))
  cases pc with
  | idle => cases hFrag
  | sendElem n => exact absurd hFrag (hNotLess n hFits)
  | sendMeta n =>
    have hEq : e.frag = n :=
      Nat.le_antisymm (Nat.le_of_lt_succ hFrag) (Nat.le_of_not_lt (hNotLess n hFits))
    subst hEq
    exact ⟨hLast, rfl⟩
  | failing n => exact absurd hIn (hBroken rfl)
  | failed n => exact absurd hIn (hBroken rfl)
  | done n =>
    have hEq : e.frag = n :=
      Nat.le_antisymm (Nat.le_of_lt_succ hFrag) (Nat.le_of_not_lt (hNotLess n hFits.2))
    subst hEq
    exact ⟨rfl, rfl⟩
  | dropped => cases hFrag

/-- With another fragment in hand, there is more to come. -/
theorem Owned.more_in_hand {e : Elem} (h : Owned cfg s) (hIn : InFlight cfg s e.pkt)
    (hFrag : e.frag < (s.pc e.pkt).sent) (hMore : more cfg e.pkt e.frag = true) :
    (s.pc e.pkt).busy cfg e.pkt = true ∨ e.frag + 1 < (s.pc e.pkt).sent := by
  have hFits := h.fits e.pkt
  have hBroken := h.broken e.pkt
  generalize s.pc e.pkt = pc at hFrag hFits hBroken ⊢
  cases pc with
  | idle => exact .inl rfl
  | sendElem n => exact .inl rfl
  | sendMeta n =>
    rcases Nat.lt_succ_iff_lt_or_eq.mp hFrag with hLess | rfl
    · exact .inr (Nat.succ_lt_succ hLess)
    · exact .inl hMore
  | failing n => exact .inl rfl
  | failed n => exact absurd hIn (hBroken rfl)
  | done n =>
    rcases Nat.lt_succ_iff_lt_or_eq.mp hFrag with hLess | rfl
    · exact .inr (Nat.succ_lt_succ hLess)
    · exact absurd (hFits.1.symm.trans hMore) Bool.false_ne_true
  | dropped => cases hFrag

/-- Behind the fragment in hand the rest of the packet is queued. -/
theorem Ordered.behind_hand {e : Elem} (h : Ordered cfg s) (hTask : s.task = .freeing e) :
    e.frag + 1 + ((s.toHostQueue (cfg.queueType e.pkt)).filter fun e' => e'.pkt = e.pkt).length =
      (s.pc e.pkt).sent := by
  have hFrags := h.frags e.pkt
  rw [← h.order] at hFrags
  simp only [State.inHand, hTask, Task.hand, List.filter_singleton, decide_true, cond_true,
    List.filter_append, List.append_assoc] at hFrags
  exact length_after hFrags

theorem Owned.freeBuf (h : Owned cfg s) (hOrdered : Ordered cfg s)
    (hStep : freeBuf cfg s = some s') : Owned cfg s' := by
  simp only [SendQueue.freeBuf] at hStep
  split at hStep
  · rename_i e hTask
    have hIn : InFlight cfg s e.pkt := ⟨e, by simp [hTask, Task.hand], rfl⟩
    have hBehind := hOrdered.behind_hand hTask
    have hFrag : e.frag < (s.pc e.pkt).sent := by omega
    generalize hNext : ({ s with
      task := .idle
      processed := Function.update s.processed (cfg.queueType e.pkt)
        (s.processed (cfg.queueType e.pkt) ++ [e]) } : State) = t at hStep
    have hPc : t.pc = s.pc := by rw [← hNext]
    have hOther : ∀ other, other ≠ e.pkt → SameFor cfg s t other := by
      intro other hNe
      refine ⟨congrFun hPc other, ?_⟩
      rw [← hNext]
      simp [InFlight, hTask, Task.hand, Ne.symm hNe]
    have hRest : InFlight cfg t e.pkt ↔ e.frag + 1 < (s.pc e.pkt).sent := by
      rw [← hBehind, ← hNext, Nat.lt_add_right_iff_pos, List.length_pos_iff_exists_mem]
      simp [InFlight, Task.hand]
    have hFits := h.fits e.pkt
    split at hStep
    · rename_i hMore
      cases hStep
      refine h.keep e.pkt hOther (hPc ▸ hFits) ?_ ?_ (by rw [← hNext])
      · rw [hPc]
        exact fun hBroken => absurd hIn (h.broken e.pkt hBroken)
      · refine iff_of_true ?_ (.inr hIn)
        rw [Used, hPc, hRest]
        exact h.more_in_hand hIn hFrag hMore
    · rename_i hLast
      cases hStep
      obtain ⟨hIdle, hSent⟩ := h.last_in_hand hIn hFrag ((Bool.not_eq_true _).mp hLast)
      refine h.release e.pkt hOther ?_ (.inr hIn) ?_ (by rw [← hNext]; rfl)
      · show (t.pc e.pkt).Fits cfg e.pkt
        rwa [hPc]
      · show ¬ ((t.pc e.pkt).busy cfg e.pkt = true ∨ InFlight cfg t e.pkt)
        rw [hPc, hIdle, hRest, hSent]
        exact not_or_intro Bool.false_ne_true (Nat.lt_irrefl _)
  · cases hStep

theorem ledger_step (h : Owned cfg s) (hOrdered : Ordered cfg s) (hUnbroken : Unbroken cfg s a)
    (hStep : step cfg s a = some s') : Owned cfg s' := by
  cases a with
  | setDatapath isOpen =>
    cases hStep
    exact ⟨h.fits, h.broken, h.ledger⟩
  | start pkt =>
    simp only [step, start] at hStep
    split at hStep
    · rename_i hPc
      have hNone : ¬ InFlight cfg s pkt := hOrdered.not_inFlight (by rw [hPc]; rfl)
      split at hStep
      · cases hStep
        exact h.freeByProducer trivial hNone (by rw [hPc]; rfl) rfl
      · cases hStep
        exact h.setPc (fun j hj => absurd hj (Nat.not_lt_zero _)) nofun (by rw [hPc]; rfl)
    · cases hStep
  | sendElem pkt ok => exact h.sendElem hUnbroken hStep
  | sendMeta pkt ok =>
    cases (show ok = true from hUnbroken)
    exact h.sendMeta hStep
  | cleanup pkt =>
    simp only [step, cleanup] at hStep
    split at hStep
    · rename_i sent hPc
      cases hStep
      exact h.freeByProducer trivial (h.broken pkt (by rw [hPc]; rfl)) (by rw [hPc]; rfl) rfl
    · cases hStep
  | receiveMeta =>
    simp only [step, receiveMeta] at hStep
    split at hStep
    · rename_i c rest hTask hMeta
      simp only [Option.ite_none_right_eq_some] at hStep
      obtain ⟨-, hEq⟩ := hStep
      cases hEq
      refine h.sameInFlight rfl (fun pkt => ?_) rfl
      simp [InFlight, hTask, Task.hand]
    · cases hStep
  | receiveElem => exact h.receiveElem hOrdered hStep
  | write =>
    simp only [step, write] at hStep
    split at hStep
    · rename_i e hTask
      cases hStep
      refine h.sameInFlight rfl (fun pkt => ?_) rfl
      simp [InFlight, hTask, Task.hand]
    · cases hStep
  | freeBuf => exact h.freeBuf hOrdered hStep

end Ownership

/-! ## Every run -/

section Runs

variable {cfg : Config} {s : State}

theorem Ordered.nodup (h : Ordered cfg s) (c : PrioQ) : (s.queued c).Nodup := by
  refine List.nodup_iff_count_le_one.mpr fun e => ?_
  by_cases hMem : e ∈ s.queued c
  · have hClass := h.queueType c e hMem
    have hNodup : ((List.range (s.pc e.pkt).sent).map (Elem.mk e.pkt)).Nodup :=
      List.nodup_range.map fun i j hEq => (Elem.mk.inj hEq).2
    rw [← h.frags, hClass] at hNodup
    have hCount := List.nodup_iff_count_le_one.mp hNodup e
    have hFilter : ((s.queued c).filter fun e' : Elem => e'.pkt = e.pkt).count e =
        (s.queued c).count e := List.count_filter (decide_eq_true rfl)
    rwa [hFilter] at hCount
  · rw [List.count_eq_zero_of_not_mem hMem]
    exact Nat.zero_le _

/-- With nothing on its way everything was processed. -/
theorem processed_of_idle (hCounted : Counted cfg s) (hOrdered : Ordered cfg s)
    (hMeta : s.metaToHostQueue = []) (hTask : s.task = .idle)
    (hBetween : ∀ pkt, (s.pc pkt).isBetween = false) (c : PrioQ) : s.processed c = s.queued c := by
  have hNone : s.between c = [] := by
    refine List.eq_nil_iff_forall_not_mem.mpr fun pkt hMem => ?_
    exact Bool.false_ne_true ((hBetween pkt).symm.trans ((hCounted.between c pkt).mp hMem).1)
  have hEmpty : s.toHostQueue c = [] := by
    have hCount := hCounted.count c
    rw [hMeta, hTask, hNone] at hCount
    exact List.eq_nil_of_length_eq_zero hCount.symm
  have hOrder := hOrdered.order c
  simpa [State.inHand, hTask, hEmpty, Task.hand] using hOrder

theorem boot_owned : Owned cfg boot := by
  refine ⟨fun _ => trivial, nofun, ?_, fun _ => Nat.zero_le _, ?_⟩
  · exact fun _ _ => rfl
  · exact fun pkt hUnused => absurd (.inl rfl) hUnused

theorem sendQueue_sound (hRun : Reaches (step cfg) (Unbroken cfg) boot s) : Sound cfg s := by
  have hAll : Counted cfg s ∧ Ordered cfg s ∧ Owned cfg s := by
    refine hRun.invariant (I := fun s => Counted cfg s ∧ Ordered cfg s ∧ Owned cfg s)
      ⟨⟨fun _ => rfl, fun _ _ => ⟨nofun, nofun⟩, fun _ => List.nodup_nil⟩,
        ⟨fun _ => rfl, fun _ _ => nofun, fun _ => rfl, nofun⟩, boot_owned⟩ ?_
    rintro s a s' ⟨hCounted, hOrdered, hOwned⟩ hUnbroken hStep
    exact ⟨count_step hCounted hUnbroken hStep, order_step hOrdered hStep,
      ledger_step hOwned hOrdered hUnbroken hStep⟩
  obtain ⟨hCounted, hOrdered, hOwned⟩ := hAll
  refine ⟨?_, hOrdered.order, hOrdered.nodup, hOrdered.accepted, ?_, hOwned.ledger.once, ?_, ?_⟩
  · intro c
    rw [← hCounted.count c]
    exact Nat.le_add_right _ _
  · intro hMeta hTask hBetween e hMem
    rw [processed_of_idle hCounted hOrdered hMeta hTask hBetween]
    exact hOrdered.accepted e hMem
  · intro pkt hReturned hNone
    refine hOwned.ledger.settled pkt (not_or_intro ?_ hNone)
    revert hReturned
    cases s.pc pkt <;> simp [Pc.returned, Pc.busy]
  · exact fun pkt hIn => hOwned.ledger.used pkt (.inr hIn)

end Runs

/-- Packet 0 is a response of two fragments, packet 1 a frame of the station. -/
def twoPackets : Config :=
  { queueType := fun pkt => if pkt = 0 then .serial else .others
    len := fun pkt => if pkt = 0 then 2000 else 100
    toHostQueueSize := 10 }

/-- The frame is queued first, and the response overtakes it. -/
theorem sendQueue_sound_overtaken :
    ∃ s, Reaches (step twoPackets) (Unbroken twoPackets) boot s ∧
      s.processed .serial = [⟨0, 0⟩, ⟨0, 1⟩] ∧ s.freed 0 = 1 ∧ Sound twoPackets s := by
  obtain ⟨s, hs, hOut⟩ := Option.map_eq_some_iff.mp
    (show (runGuarded (step twoPackets) (Unbroken twoPackets) boot [.setDatapath true, .start 1,
      .sendElem 1 true, .sendMeta 1 true, .start 0, .sendElem 0 true, .sendMeta 0 true,
      .sendElem 0 true, .sendMeta 0 true, .receiveMeta, .receiveElem, .write, .freeBuf,
      .receiveMeta, .receiveElem, .write, .freeBuf]).map
        (fun s => (s.processed .serial, s.freed 0)) = some ([⟨0, 0⟩, ⟨0, 1⟩], 1) by
        decide +kernel)
  obtain ⟨hProcessed, hFreed⟩ := Prod.mk.inj hOut
  exact ⟨s, .of_run hs, hProcessed, hFreed, sendQueue_sound (.of_run hs)⟩

/-- The second fragment of a response does not go into the queue: the buffer is freed while the
first one still points into it. -/
theorem not_sendQueue_sound :
    ¬ ∀ s, Reaches (step twoPackets) anyStep boot s → Sound twoPackets s := by
  intro h
  obtain ⟨s, hs, hOut⟩ := Option.map_eq_some_iff.mp
    (show (run (step twoPackets) boot [.setDatapath true, .start 0, .sendElem 0 true,
      .sendMeta 0 true, .sendElem 0 false, .cleanup 0]).map
        (fun s => (s.toHostQueue .serial, s.freed 0)) = some ([⟨0, 0⟩], 1) by decide +kernel)
  obtain ⟨hQueue, hFreed⟩ := Prod.mk.inj hOut
  have hIn : InFlight twoPackets s 0 :=
    ⟨⟨0, 0⟩, List.mem_append_right _ (show _ ∈ s.toHostQueue .serial by rw [hQueue]; simp), rfl⟩
  have hNone := (h s (.of_plain_run hs)).not_dangling 0 hIn
  rw [hFreed] at hNone
  cases hNone

end EspHosted.Coprocessor.SendQueue
