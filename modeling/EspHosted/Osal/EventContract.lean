import EspHosted.Lib.Machine
import EspHosted.Lib.Observers
import Mathlib.Data.List.AList

/-!
# The event contract of the three ports

Handlers are registered for an event, unregistered, and called for each post. Linux calls them
under the lock of its list. The JL port takes a snapshot of at most eight and calls it without the
lock. The ESP-IDF port casts them to handlers of `esp_event`, which calls each handler registered
for a post as `(arg, base, id, copy of the data)`, and it posts only what it can convert. Calls of
the contract come from any number of tasks, and from the handlers.

* `event_contract`: when the ports meet the contract, in every run;
* `post_returns`: a post that has begun can always be finished.
-/

namespace EspHosted.Osal.EventContract

open Machine Observers

/-! ## Model -/

inductive Port
  | linux
  | jl
  | espIdf
  deriving DecidableEq

def hEventMax : Nat := 3
def jlEventMaxHandlersPerPost : Nat := 8

/-- An entry of `g_handlers`. The serial number tells apart entries with the same fields. -/
structure Registration where
  serial : Nat
  base : Nat
  eventId : Int
  handler : Nat
  userCtx : Nat
  deriving DecidableEq

structure Post where
  serial : Nat
  base : Nat
  eventId : Int
  eventData : Nat
  eventDataSize : Nat
  deriving DecidableEq

/-- What stands in an argument of a handler. -/
inductive Arg
  | eventData (pointer : Nat)
  | eventDataSize (size : Nat)
  | userCtx (pointer : Nat)
  | espBase (base : Nat)
  | espEventId (id : Int)
  deriving DecidableEq

/-- The three arguments of an `h_event_handler_t`. -/
structure Args where
  data : Arg
  len : Arg
  ctx : Arg
  deriving DecidableEq

def Post.Matches (p : Post) (r : Registration) : Prop := r.base = p.base ∧ r.eventId = p.eventId

instance (p : Post) (r : Registration) : Decidable (p.Matches r) :=
  inferInstanceAs (Decidable (_ ∧ _))

def Post.args (p : Post) (r : Registration) : Args :=
  ⟨.eventData p.eventData, .eventDataSize p.eventDataSize, .userCtx r.userCtx⟩

/-- The first three arguments of an `esp_event_handler_t`. -/
def Post.espArgs (p : Post) (r : Registration) : Args :=
  ⟨.userCtx r.userCtx, .espBase p.base, .espEventId p.eventId⟩

/-- The contract between the ports and the handlers. -/
def contract : Subject Registration Post Args := ⟨Post.Matches, Post.args⟩

instance (p : Post) (r : Registration) : Decidable (contract.Concerns p r) :=
  inferInstanceAs (Decidable (p.Matches r))

abbrev History := List (Event Registration Post Args)

structure State where
  gHandlers : List Registration
  /-- For each post that has begun, the handlers that it has still to call. -/
  pending : AList fun _ : Post => List Registration
  /-- The lock of the Linux port while the handlers run. -/
  locked : Bool
  next : Nat
  log : History

def initial : State := ⟨[], ∅, false, 0, []⟩

/-- `granted` is what the allocation gives, or `h_wifi_event_id_to_esp` and
`esp_event_handler_register`; `accepted` is whether the ESP-IDF port converts the payload and
`esp_event_post` takes it. -/
inductive Action
  | register (base : Nat) (eventId : Int) (handler userCtx : Nat) (granted : Bool)
  | unregister (base : Nat) (eventId : Int) (handler : Nat)
  | post (base : Nat) (eventId : Int) (eventData eventDataSize : Nat) (accepted : Bool)
  | call (p : Post)
  | finish (p : Post)

/-- The checks of the registration functions; `h_base_to_esp` knows the bases below
`H_EVENT_MAX`. Only the JL port refuses the handler `0`: Linux registers it as any other, and
calls it for a post. -/
def Accepts (base handler : Nat) : Port → Prop
  | .linux => True
  | .jl => handler ≠ 0 ∧ base < hEventMax
  | .espIdf => base < hEventMax

instance (base handler : Nat) : ∀ port, Decidable (Accepts base handler port)
  | .linux => .isTrue trivial
  | .jl => inferInstanceAs (Decidable (_ ∧ _))
  | .espIdf => inferInstanceAs (Decidable (_ < _))

def Posts (base : Nat) (accepted : Bool) : Port → Prop
  | .linux => True
  | .jl => base < hEventMax
  | .espIdf => base < hEventMax ∧ accepted = true

instance (base : Nat) (accepted : Bool) : ∀ port, Decidable (Posts base accepted port)
  | .linux => .isTrue trivial
  | .jl => inferInstanceAs (Decidable (_ < _))
  | .espIdf => inferInstanceAs (Decidable (_ ∧ _))

/-- The loop through `g_handlers`. -/
def matching (p : Post) (gHandlers : List Registration) : List Registration :=
  gHandlers.filter fun r => p.Matches r

def snapshot (p : Post) (gHandlers : List Registration) : Port → List Registration
  | .linux => matching p gHandlers
  | .jl => (matching p gHandlers).take jlEventMaxHandlersPerPost
  | .espIdf => []

/-- The calls that `esp_event` makes for a post, newest first. -/
def espEventCalls (p : Post) (gHandlers : List Registration) : Port → History
  | .linux | .jl => []
  | .espIdf => ((matching p gHandlers).map fun r => .called p r (p.espArgs r)).reverse

def found (base : Nat) (eventId : Int) (handler : Nat) (s : State) : Option Registration :=
  s.gHandlers.find? fun r => r.base = base ∧ r.eventId = eventId ∧ r.handler = handler

def eventRegister (port : Port) (base : Nat) (eventId : Int) (handler userCtx : Nat)
    (granted : Bool) (s : State) : State :=
  let r : Registration := ⟨s.next, base, eventId, handler, userCtx⟩
  if Accepts base handler port ∧ granted = true then
    { s with gHandlers := r :: s.gHandlers, next := s.next + 1, log := .registered r :: s.log }
  else s

def eventUnregister (port : Port) (base : Nat) (eventId : Int) (handler : Nat) (s : State) :
    State :=
  if Accepts base handler port then
    match found base eventId handler s with
    | none => s
    | some r => { s with gHandlers := s.gHandlers.erase r, log := .unregistered r :: s.log }
  else s

/-- The post that `post` makes next. -/
def newPost (base : Nat) (eventId : Int) (eventData eventDataSize : Nat) (s : State) : Post :=
  ⟨s.next, base, eventId, eventData, eventDataSize⟩

/-- A post begins, or is refused. -/
def eventPost (port : Port) (p : Post) (accepted : Bool) (s : State) : State :=
  if Posts p.base accepted port then
    { s with
      pending := s.pending.insert p (snapshot p s.gHandlers port)
      locked := decide (port = .linux)
      next := s.next + 1
      log := .posted p :: s.log }
  else { s with next := s.next + 1, log := .done p :: .posted p :: s.log }

/-- One step of a task. While the Linux port holds its lock the others wait. -/
def step (port : Port) (s : State) : Action → Option State
  | .register base eventId handler userCtx granted =>
    if s.locked then none
    else some (eventRegister port base eventId handler userCtx granted s)
  | .unregister base eventId handler =>
    if s.locked then none else some (eventUnregister port base eventId handler s)
  | .post base eventId eventData eventDataSize accepted =>
    if s.locked then none
    else some (eventPost port (newPost base eventId eventData eventDataSize s) accepted s)
  | .call p =>
    match s.pending.lookup p with
    | some (r :: rest) =>
      some { s with
        pending := s.pending.insert p rest
        log := .called p r (p.args r) :: s.log }
    | _ => none
  | .finish p =>
    match s.pending.lookup p with
    | some [] =>
      some { s with
        pending := s.pending.erase p
        locked := false
        log := .done p :: (espEventCalls p s.gHandlers port ++ s.log) }
    | _ => none

/-! ## When a port meets the contract -/

/-- The JL port posts to at most eight handlers and unregisters none that a post has still to call.
On the ESP-IDF port no handler is registered when a post for it is refused or delivered. -/
def Guard (port : Port) (s : State) : Action → Prop
  | .register _ _ _ _ _ | .call _ => True
  | .unregister base eventId handler => port = .jl →
    ∀ e ∈ s.pending.entries, ∀ r ∈ e.2, found base eventId handler s ≠ some r
  | .post base eventId eventData eventDataSize accepted =>
    (port = .jl → (matching (newPost base eventId eventData eventDataSize s) s.gHandlers).length ≤
      jlEventMaxHandlersPerPost) ∧
    (port = .espIdf → ¬ Posts base accepted port →
      matching (newPost base eventId eventData eventDataSize s) s.gHandlers = [])
  | .finish p => port = .espIdf → matching p s.gHandlers = []

instance (port : Port) (s : State) : ∀ a, Decidable (Guard port s a)
  | .register _ _ _ _ _ | .call _ => .isTrue trivial
  | .unregister _ _ _ => inferInstanceAs (Decidable (_ → _))
  | .post _ _ _ _ _ => inferInstanceAs (Decidable (_ ∧ _))
  | .finish _ => inferInstanceAs (Decidable (_ → _))

/-- A post that has begun: whom it has still to call, and that it leaves out nobody. -/
structure Begun (port : Port) (s : State) (p : Post) (rest : List Registration) : Prop where
  posted : .posted p ∈ s.log
  notDone : .done p ∉ s.log
  nodup : rest.Nodup
  due : ∀ r ∈ rest, r ∈ s.gHandlers ∧ p.Matches r ∧ ¬ Called p r s.log
  complete : port ≠ .espIdf → ∀ r ∈ liveAt p s.log, r ∈ s.gHandlers → p.Matches r →
    Called p r s.log ∨ r ∈ rest
  queued : port = .espIdf → rest = []

/-- Serial numbers are given out in order, and nothing is called or done for a post before it. -/
structure Ordered (next : Nat) (log : History) : Prop where
  registered : ∀ r, .registered r ∈ log → r.serial < next
  posted : ∀ p, .posted p ∈ log → p.serial < next
  called : ∀ p r, Called p r log → .posted p ∈ log
  done : ∀ p, .done p ∈ log → .posted p ∈ log

structure Inv (port : Port) (s : State) : Prop where
  live : s.gHandlers = live s.log
  nodup : s.gHandlers.Nodup
  known : port ≠ .linux → ∀ r ∈ s.gHandlers, r.base < hEventMax
  ordered : Ordered s.next s.log
  exclusive : port = .linux → ∀ p rest, s.pending.lookup p = some rest →
    s.locked = true ∧ ∀ q, q ≠ p → s.pending.lookup q = none
  begun : ∀ p rest, s.pending.lookup p = some rest → Begun port s p rest
  contract : Contract contract s.log

section Ordered

variable {next : Nat} {log : History} {p : Post} {r : Registration} {args : Args}

theorem Ordered.register (h : Ordered next log) (hSerial : r.serial = next) :
    Ordered (next + 1) (.registered r :: log) where
  registered r' hr' := by
    rcases List.mem_cons.mp hr' with hEq | hOld
    · cases hEq
      exact hSerial ▸ Nat.lt_succ_self _
    · exact Nat.lt_succ_of_lt (h.registered r' hOld)
  posted p hp := Nat.lt_succ_of_lt (h.posted p (by simpa using hp))
  called p r hc := List.mem_cons_of_mem _ (h.called p r (called_registered.mp hc))
  done p hd := List.mem_cons_of_mem _ (h.done p (by simpa using hd))

theorem Ordered.unregister (h : Ordered next log) : Ordered next (.unregistered r :: log) where
  registered r' hr' := h.registered r' (by simpa using hr')
  posted p hp := h.posted p (by simpa using hp)
  called p r hc := List.mem_cons_of_mem _ (h.called p r (called_unregistered.mp hc))
  done p hd := List.mem_cons_of_mem _ (h.done p (by simpa using hd))

theorem Ordered.post (h : Ordered next log) (hSerial : p.serial = next) :
    Ordered (next + 1) (.posted p :: log) where
  registered r hr := Nat.lt_succ_of_lt (h.registered r (by simpa using hr))
  posted q hq := by
    rcases List.mem_cons.mp hq with hEq | hOld
    · cases hEq
      exact hSerial ▸ Nat.lt_succ_self _
    · exact Nat.lt_succ_of_lt (h.posted q hOld)
  called q r hc := List.mem_cons_of_mem _ (h.called q r (called_posted.mp hc))
  done q hd := List.mem_cons_of_mem _ (h.done q (by simpa using hd))

theorem Ordered.call (h : Ordered next log) (hPosted : .posted p ∈ log) :
    Ordered next (.called p r args :: log) where
  registered r' hr' := h.registered r' (by simpa using hr')
  posted q hq := h.posted q (by simpa using hq)
  called q r' hc := by
    rcases called_called.mp hc with ⟨rfl, -⟩ | hOld
    · exact List.mem_cons_of_mem _ hPosted
    · exact List.mem_cons_of_mem _ (h.called q r' hOld)
  done q hd := List.mem_cons_of_mem _ (h.done q (by simpa using hd))

theorem Ordered.finish (h : Ordered next log) (hPosted : .posted p ∈ log) :
    Ordered next (.done p :: log) where
  registered r hr := h.registered r (by simpa using hr)
  posted q hq := h.posted q (by simpa using hq)
  called q r hc := List.mem_cons_of_mem _ (h.called q r (called_done.mp hc))
  done q hd := by
    rcases List.mem_cons.mp hd with hEq | hOld
    · cases hEq
      exact List.mem_cons_of_mem _ hPosted
    · exact List.mem_cons_of_mem _ (h.done q hOld)

end Ordered

section Steps

variable {port : Port} {s t : State} {p : Post} {r : Registration} {rest : List Registration}

theorem mem_matching {gHandlers : List Registration} :
    r ∈ matching p gHandlers ↔ r ∈ gHandlers ∧ p.Matches r := by
  simp [matching]

theorem inv_initial : Inv port initial where
  live := rfl
  nodup := List.nodup_nil
  known _ _ h := (List.not_mem_nil h).elim
  ordered := ⟨fun _ h => (List.not_mem_nil h).elim, fun _ h => (List.not_mem_nil h).elim,
    fun _ _ h => (not_called_nil h).elim, fun _ h => (List.not_mem_nil h).elim⟩
  exclusive _ p _ h := by
    rw [initial, AList.lookup_empty] at h
    cases h
  begun p _ h := by
    rw [initial, AList.lookup_empty] at h
    cases h
  contract := trivial

/-- What leaves a post alone. -/
theorem Begun.of_step (h : Begun port s p rest) (hPosted : .posted p ∈ t.log)
    (hDone : .done p ∉ t.log) (hCalled : ∀ r, Called p r t.log ↔ Called p r s.log)
    (hLive : liveAt p t.log = liveAt p s.log) (hKept : ∀ r ∈ rest, r ∈ t.gHandlers)
    (hNew : ∀ r ∈ liveAt p s.log, r ∈ t.gHandlers → r ∈ s.gHandlers) : Begun port t p rest where
  posted := hPosted
  notDone := hDone
  nodup := h.nodup
  due r hr := ⟨hKept r hr, (h.due r hr).2.1, fun hc => (h.due r hr).2.2 ((hCalled r).mp hc)⟩
  complete hPort r hr hIn hMatches := by
    rw [hLive] at hr
    exact (h.complete hPort r hr (hNew r hr hIn) hMatches).imp_left (hCalled r).mpr
  queued := h.queued

theorem eventRegister_inv {base : Nat} {eventId : Int} {handler userCtx : Nat} {granted : Bool}
    (hInv : Inv port s) : Inv port (eventRegister port base eventId handler userCtx granted s) := by
  unfold eventRegister
  split
  · rename_i hAccepts
    have hFresh : ⟨s.next, base, eventId, handler, userCtx⟩ ∉ s.gHandlers := fun h =>
      Nat.lt_irrefl _ (hInv.ordered.registered _ (mem_live (hInv.live ▸ h)))
    exact {
      live := congrArg _ hInv.live
      nodup := List.nodup_cons.mpr ⟨hFresh, hInv.nodup⟩
      known := fun hPort r hr => by
        rcases List.mem_cons.mp hr with rfl | hOld
        · cases port with
          | linux => exact absurd rfl hPort
          | jl => exact hAccepts.1.2
          | espIdf => exact hAccepts.1
        · exact hInv.known hPort r hOld
      ordered := hInv.ordered.register rfl
      exclusive := hInv.exclusive
      begun := fun p rest h => by
        have hBegun := hInv.begun p rest h
        refine hBegun.of_step (List.mem_cons_of_mem _ hBegun.posted)
          (by simpa using hBegun.notDone) (fun _ => called_registered) rfl
          (fun r hr => List.mem_cons_of_mem _ (hBegun.due r hr).1) fun r hr hIn => ?_
        -- A handler that was there when `p` was posted has an older serial number.
        rcases List.mem_cons.mp hIn with rfl | hOld
        · exact absurd (hInv.ordered.registered _ (mem_liveAt hr)) (Nat.lt_irrefl _)
        · exact hOld
      contract := hInv.contract }
  · exact hInv

/-- No post in progress has still to call a handler that is unregistered. -/
theorem found_not_due {base : Nat} {eventId : Int} {handler : Nat} (hInv : Inv port s)
    (hGuard : Guard port s (.unregister base eventId handler)) (hFree : s.locked ≠ true)
    (hFound : found base eventId handler s = some r) (hPending : s.pending.lookup p = some rest) :
    r ∉ rest := by
  intro hr
  cases port with
  | linux => exact hFree (hInv.exclusive rfl p rest hPending).1
  | jl => exact hGuard rfl _ (AList.mem_lookup_iff.mp hPending) r hr hFound
  | espIdf =>
    rw [(hInv.begun p rest hPending).queued rfl] at hr
    cases hr

theorem eventUnregister_inv {base : Nat} {eventId : Int} {handler : Nat} (hInv : Inv port s)
    (hGuard : Guard port s (.unregister base eventId handler)) (hFree : s.locked ≠ true) :
    Inv port (eventUnregister port base eventId handler s) := by
  unfold eventUnregister
  split
  · split
    · exact hInv
    · rename_i r hFound
      exact {
        live := congrArg (List.erase · r) hInv.live
        nodup := hInv.nodup.erase r
        known := fun hPort r' hr' => hInv.known hPort r' (List.mem_of_mem_erase hr')
        ordered := hInv.ordered.unregister
        exclusive := hInv.exclusive
        begun := fun p rest h => by
          have hBegun := hInv.begun p rest h
          refine hBegun.of_step (List.mem_cons_of_mem _ hBegun.posted)
            (by simpa using hBegun.notDone) (fun _ => called_unregistered) rfl (fun r' hr' => ?_)
            fun r' _ hIn => List.mem_of_mem_erase hIn
          have hNe : r' ≠ r := fun hEq =>
            found_not_due hInv hGuard hFree hFound h (hEq ▸ hr')
          exact (List.mem_erase_of_ne hNe).mpr (hBegun.due r' hr').1
        contract := hInv.contract }
  · exact hInv

/-- A post with the next serial number is new. -/
theorem not_posted (hInv : Inv port s) (hSerial : p.serial = s.next) : .posted p ∉ s.log :=
  fun h => Nat.ne_of_lt (hInv.ordered.posted p h) hSerial

/-- Whom a snapshot leaves out does not match. -/
theorem mem_snapshot (hPort : port ≠ .espIdf) {gHandlers : List Registration}
    (hFew : port = .jl → (matching p gHandlers).length ≤ jlEventMaxHandlersPerPost) :
    r ∈ snapshot p gHandlers port ↔ r ∈ gHandlers ∧ p.Matches r := by
  cases port with
  | linux => exact mem_matching
  | jl =>
    rw [snapshot, List.take_of_length_le (hFew rfl)]
    exact mem_matching
  | espIdf => exact absurd rfl hPort

theorem snapshot_sublist (p : Post) (gHandlers : List Registration) :
    (snapshot p gHandlers port).Sublist (matching p gHandlers) := by
  cases port with
  | linux => exact List.Sublist.refl _
  | jl => exact List.take_sublist _ _
  | espIdf => exact List.nil_sublist _

/-- A post that begins has still to call everyone who is registered for it. -/
theorem begun_new (hInv : Inv port s) (hNew : .posted p ∉ s.log)
    (hFew : port = .jl → (matching p s.gHandlers).length ≤ jlEventMaxHandlersPerPost)
    (hHandlers : t.gHandlers = s.gHandlers) (hLog : t.log = .posted p :: s.log) :
    Begun port t p (snapshot p s.gHandlers port) where
  posted := by
    rw [hLog]
    exact List.mem_cons_self
  notDone h := by
    rw [hLog] at h
    exact hNew (hInv.ordered.done p (by simpa using h))
  nodup := (snapshot_sublist p _).nodup (hInv.nodup.filter _)
  due r hr := by
    obtain ⟨hIn, hMatches⟩ := mem_matching.mp ((snapshot_sublist p _).subset hr)
    rw [hHandlers, hLog, called_posted]
    exact ⟨hIn, hMatches, fun h => hNew (hInv.ordered.called p r h)⟩
  complete hPort r _ hIn hMatches :=
    .inr ((mem_snapshot hPort hFew).mpr ⟨hHandlers ▸ hIn, hMatches⟩)
  queued hPort := by rw [hPort, snapshot]

/-- A post that is refused concerns nobody. -/
theorem refused_not_matches {base : Nat} {eventId : Int} {eventData eventDataSize : Nat}
    {accepted : Bool} (hInv : Inv port s)
    (hGuard : Guard port s (.post base eventId eventData eventDataSize accepted))
    (hRefused : ¬ Posts base accepted port) (hr : r ∈ s.gHandlers) :
    ¬ (newPost base eventId eventData eventDataSize s).Matches r := by
  intro hMatches
  cases port with
  | linux => exact hRefused trivial
  | jl =>
    have hBase : r.base = base := hMatches.1
    exact hRefused (hBase ▸ hInv.known (by decide) r hr)
  | espIdf =>
    have hMem := mem_matching.mpr ⟨hr, hMatches⟩
    rw [hGuard.2 rfl hRefused] at hMem
    cases hMem

theorem eventPost_inv {accepted : Bool} (hInv : Inv port s) (hSerial : p.serial = s.next)
    (hFew : port = .jl → (matching p s.gHandlers).length ≤ jlEventMaxHandlersPerPost)
    (hRefused : ¬ Posts p.base accepted port → ∀ r ∈ s.gHandlers, ¬ p.Matches r)
    (hFree : s.locked ≠ true) : Inv port (eventPost port p accepted s) := by
  have hNew : .posted p ∉ s.log := not_posted hInv hSerial
  have hOther : ∀ q rest, s.pending.lookup q = some rest → q ≠ p := fun q rest h hEq =>
    hNew (hEq ▸ (hInv.begun q rest h).posted)
  have hLiveAt : ∀ q, q ≠ p → liveAt q (.posted p :: s.log) = liveAt q s.log := fun q hNe =>
    if_neg (Ne.symm hNe)
  unfold eventPost
  split
  · exact {
      live := hInv.live
      nodup := hInv.nodup
      known := hInv.known
      ordered := hInv.ordered.post hSerial
      exclusive := fun hPort => by
        -- The lock was free, so no post was in progress.
        have hNone : ∀ q, s.pending.lookup q = none := fun q => by
          cases hLookup : s.pending.lookup q with
          | none => rfl
          | some rest => exact absurd (hInv.exclusive hPort q rest hLookup).1 hFree
        intro q rest h
        refine ⟨decide_eq_true hPort, fun q' hNe => ?_⟩
        have hEq : q = p := by
          by_contra hNot
          rw [AList.lookup_insert_ne hNot, hNone q] at h
          cases h
        rw [AList.lookup_insert_ne (hEq ▸ hNe), hNone q']
      begun := fun q rest h => by
        by_cases hEq : q = p
        · subst hEq
          rw [AList.lookup_insert] at h
          cases h
          exact begun_new hInv hNew hFew rfl rfl
        · rw [AList.lookup_insert_ne hEq] at h
          have hBegun := hInv.begun q rest h
          exact hBegun.of_step (List.mem_cons_of_mem _ hBegun.posted)
            (by simpa using hBegun.notDone) (fun _ => called_posted) (hLiveAt q hEq)
            (fun r hr => (hBegun.due r hr).1) fun _ _ hIn => hIn
      contract := hInv.contract }
  · rename_i hNot
    exact {
      live := hInv.live
      nodup := hInv.nodup
      known := hInv.known
      ordered := (hInv.ordered.post hSerial).finish List.mem_cons_self
      exclusive := hInv.exclusive
      begun := fun q rest h => by
        have hBegun := hInv.begun q rest h
        have hNe := hOther q rest h
        refine hBegun.of_step
          (List.mem_cons_of_mem _ (List.mem_cons_of_mem _ hBegun.posted)) ?_
          (fun _ => called_done.trans called_posted) (hLiveAt q hNe)
          (fun r hr => (hBegun.due r hr).1) fun _ _ hIn => hIn
        simpa [hNe] using hBegun.notDone
      contract := by
        refine ⟨fun r _ hLive hMatches => absurd hMatches (hRefused hNot r ?_), hInv.contract⟩
        exact hInv.live ▸ hLive }

theorem call_inv (hInv : Inv port s) (hPending : s.pending.lookup p = some (r :: rest)) :
    Inv port { s with
      pending := s.pending.insert p rest
      log := .called p r (p.args r) :: s.log } := by
  have hBegun := hInv.begun p _ hPending
  obtain ⟨hIn, hMatches, hNot⟩ := hBegun.due r List.mem_cons_self
  obtain ⟨hHead, hNodup⟩ := List.nodup_cons.mp hBegun.nodup
  exact {
    live := hInv.live
    nodup := hInv.nodup
    known := hInv.known
    ordered := hInv.ordered.call hBegun.posted
    exclusive := fun hPort q rest' h => by
      obtain ⟨hLocked, hAlone⟩ := hInv.exclusive hPort p _ hPending
      have hEq : q = p := by
        by_contra hNe
        rw [AList.lookup_insert_ne hNe, hAlone q hNe] at h
        cases h
      exact ⟨hLocked, fun q' hNe => by
        rw [AList.lookup_insert_ne (hEq ▸ hNe), hAlone q' (hEq ▸ hNe)]⟩
    begun := fun q rest' h => by
      by_cases hEq : q = p
      · subst hEq
        rw [AList.lookup_insert] at h
        cases h
        exact {
          posted := List.mem_cons_of_mem _ hBegun.posted
          notDone := by simpa using hBegun.notDone
          nodup := hNodup
          due := fun r' hr' => by
            obtain ⟨hIn', hMatches', hNot'⟩ := hBegun.due r' (List.mem_cons_of_mem _ hr')
            refine ⟨hIn', hMatches', fun hCalled => ?_⟩
            rcases called_called.mp hCalled with ⟨-, rfl⟩ | hOld
            · exact hHead hr'
            · exact hNot' hOld
          complete := fun hPort r' hr' hIn' hMatches' => by
            rcases hBegun.complete hPort r' hr' hIn' hMatches' with hOld | hMem
            · exact .inl (called_called.mpr (.inr hOld))
            · rcases List.mem_cons.mp hMem with rfl | hRest
              · exact .inl (called_called.mpr (.inl ⟨rfl, rfl⟩))
              · exact .inr hRest
          queued := fun hPort => absurd (hBegun.queued hPort) (List.cons_ne_nil _ _) }
      · rw [AList.lookup_insert_ne hEq] at h
        have hOther := hInv.begun q rest' h
        refine hOther.of_step (List.mem_cons_of_mem _ hOther.posted)
          (by simpa using hOther.notDone) (fun _ => ?_) rfl (fun r' hr' => (hOther.due r' hr').1)
          fun _ _ hIn' => hIn'
        rw [called_called, or_iff_right fun h => hEq h.1]
    contract := ⟨⟨hInv.live ▸ hIn, hMatches, rfl, hBegun.posted, hBegun.notDone, hNot⟩,
      hInv.contract⟩ }

/-- `esp_event` calls nobody if nobody matches. -/
theorem espEventCalls_eq_nil (hNone : port = .espIdf → matching p s.gHandlers = []) :
    espEventCalls p s.gHandlers port = [] := by
  cases port with
  | linux | jl => rfl
  | espIdf => rw [espEventCalls, hNone rfl, List.map_nil, List.reverse_nil]

theorem finish_inv (hInv : Inv port s) (hNone : port = .espIdf → matching p s.gHandlers = [])
    (hPending : s.pending.lookup p = some []) :
    Inv port { s with
      pending := s.pending.erase p
      locked := false
      log := .done p :: (espEventCalls p s.gHandlers port ++ s.log) } := by
  have hBegun := hInv.begun p _ hPending
  rw [espEventCalls_eq_nil hNone, List.nil_append]
  exact {
    live := hInv.live
    nodup := hInv.nodup
    known := hInv.known
    ordered := hInv.ordered.finish hBegun.posted
    exclusive := fun hPort q rest' h => by
      have hNe : q ≠ p := by
        rintro rfl
        rw [AList.lookup_erase] at h
        cases h
      rw [AList.lookup_erase_ne hNe, (hInv.exclusive hPort p _ hPending).2 q hNe] at h
      cases h
    begun := fun q rest' h => by
      have hNe : q ≠ p := by
        rintro rfl
        rw [AList.lookup_erase] at h
        cases h
      rw [AList.lookup_erase_ne hNe] at h
      have hOther := hInv.begun q rest' h
      exact hOther.of_step (List.mem_cons_of_mem _ hOther.posted)
        (by simpa [hNe] using hOther.notDone) (fun _ => called_done) rfl
        (fun r' hr' => (hOther.due r' hr').1) fun _ _ hIn' => hIn'
    contract := by
      refine ⟨fun r' hr' hLive hMatches => ?_, hInv.contract⟩
      have hIn : r' ∈ s.gHandlers := hInv.live ▸ hLive
      by_cases hPort : port = .espIdf
      · have hMem := mem_matching.mpr ⟨hIn, hMatches⟩
        rw [hNone hPort] at hMem
        cases hMem
      · exact (hBegun.complete hPort r' hr' hIn hMatches).resolve_right List.not_mem_nil }

theorem step_inv {a : Action} (hInv : Inv port s) (hGuard : Guard port s a)
    (hStep : step port s a = some t) : Inv port t := by
  cases a with
  | register base eventId handler userCtx granted =>
    simp only [step] at hStep
    split at hStep
    · cases hStep
    · cases hStep
      exact eventRegister_inv hInv
  | unregister base eventId handler =>
    simp only [step] at hStep
    split at hStep
    · cases hStep
    · rename_i hFree
      cases hStep
      exact eventUnregister_inv hInv hGuard hFree
  | post base eventId eventData eventDataSize accepted =>
    simp only [step] at hStep
    split at hStep
    · cases hStep
    · rename_i hFree
      cases hStep
      exact eventPost_inv hInv rfl hGuard.1
        (fun hNot r hr => refused_not_matches hInv hGuard hNot hr) hFree
  | call p =>
    simp only [step] at hStep
    split at hStep
    · rename_i r rest hPending
      cases hStep
      exact call_inv hInv hPending
    · cases hStep
  | finish p =>
    simp only [step] at hStep
    split at hStep
    · rename_i hPending
      cases hStep
      exact finish_inv hInv hGuard hPending
    · cases hStep

/-- A post that has begun returns once it has called whom it has still to call. -/
theorem post_returns (h : s.pending.lookup p = some rest) :
    ∃ t, run (step port) s (List.replicate rest.length (.call p) ++ [.finish p]) = some t ∧
      .done p ∈ t.log := by
  induction rest generalizing s with
  | nil =>
    refine ⟨{ s with
      pending := s.pending.erase p
      locked := false
      log := .done p :: (espEventCalls p s.gHandlers port ++ s.log) }, ?_, List.mem_cons_self⟩
    simp only [List.length_nil, List.replicate_zero, List.nil_append, run, step, h]
    rfl
  | cons r rest ih =>
    obtain ⟨t, hRun, hDone⟩ := ih (s := { s with
      pending := s.pending.insert p rest
      log := .called p r (p.args r) :: s.log }) (AList.lookup_insert _)
    refine ⟨t, ?_, hDone⟩
    rw [List.length_cons, List.replicate_succ, List.cons_append, run]
    simp only [step, h]
    exact hRun

end Steps

/-! ## Runs -/

/-- In every run whose steps keep the guard, handlers are called as the contract has it, and every
post that has begun can be finished. -/
theorem event_contract {port : Port} {s : State}
    (hRun : Reaches (step port) (Guard port) initial s) :
    Contract contract s.log ∧ ∀ p rest, s.pending.lookup p = some rest →
      ∃ t, run (step port) s (List.replicate rest.length (.call p) ++ [.finish p]) = some t ∧
        .done p ∈ t.log :=
  ⟨(hRun.invariant inv_initial fun _ _ _ hInv hGuard hStep => step_inv hInv hGuard hStep).contract,
    fun _ _ h => post_returns h⟩

/-- One handler with two contexts on the JL port. -/
theorem event_contract_two :
    ∃ s, Reaches (step .jl) (Guard .jl) initial s ∧ Contract contract s.log ∧
      Called ⟨2, 0, 4, 7, 8⟩ ⟨0, 0, 4, 1, 5⟩ s.log ∧
      Called ⟨2, 0, 4, 7, 8⟩ ⟨1, 0, 4, 1, 6⟩ s.log := by
  have hRun := Reaches.of_run (show runGuarded (step .jl) (Guard .jl) initial
    [.register 0 4 1 5 true, .register 0 4 1 6 true, .post 0 4 7 8 true, .call ⟨2, 0, 4, 7, 8⟩,
      .call ⟨2, 0, 4, 7, 8⟩, .finish ⟨2, 0, 4, 7, 8⟩, .unregister 0 4 1] = some _ from rfl)
  exact ⟨_, hRun, (event_contract hRun).1, by decide, by decide⟩

def Breaks (port : Port) (as : List Action) : Prop :=
  ∃ s, run (step port) initial as = some s ∧ ¬ Contract contract s.log

/-- The JL port forgets the ninth handler and calls one that is unregistered, and the ESP-IDF port
calls with other arguments. -/
theorem ports_break :
    Breaks .jl (List.replicate 9 (Action.register 0 4 1 5 true) ++
      ([.post 0 4 7 8 true] : List Action) ++ List.replicate 8 (Action.call ⟨9, 0, 4, 7, 8⟩) ++
      ([.finish ⟨9, 0, 4, 7, 8⟩] : List Action)) ∧
    Breaks .jl [.register 0 4 1 5 true, .post 0 4 7 8 true, .unregister 0 4 1,
      .call ⟨1, 0, 4, 7, 8⟩] ∧
    Breaks .espIdf [.register 1 0 1 5 true, .post 1 0 7 8 true, .finish ⟨1, 1, 0, 7, 8⟩] :=
  ⟨⟨_, rfl, by decide⟩, ⟨_, rfl, by decide⟩, ⟨_, rfl, by decide⟩⟩

end EspHosted.Osal.EventContract
