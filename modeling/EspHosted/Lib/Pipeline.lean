import EspHosted.Lib.Machine
import Mathlib.Data.List.Basic

/-!
# A pipeline of queues

Items are put into a queue, a writer turns each into a frame, a reader turns each frame into an item
again, or drops it, and a last queue is emptied one by one. The writer and the last stage may lose
what they have got out of their queue.

* `delivered_inFlight`: while nothing is lost, what was delivered followed by what is under way is
  what was sent and can be carried, in order;
* `delivered_iff`: so all that was sent is delivered if all of it can be carried;
* `progress`: and until then there is a step that loses nothing.
-/

namespace EspHosted.Pipeline

open Machine

variable {α φ : Type*}

/-- What the writer makes of an item, and the reader of a frame. -/
structure Hops (α φ : Type*) where
  frame : α → Option φ
  take : φ → Option α

def Hops.carry (h : Hops α φ) (x : α) : Option α := (h.frame x).bind h.take

structure State (α φ : Type*) where
  sent : List α
  queued : List α
  bus : List φ
  received : List α
  delivered : List α

def boot : State α φ := ⟨[], [], [], [], []⟩

inductive Action (α : Type*)
  | send (x : α)
  | write (ok : Bool)
  | receive
  | deliver (ok : Bool)

def step (h : Hops α φ) (s : State α φ) : Action α → Option (State α φ)
  | .send x => some { s with sent := s.sent ++ [x], queued := s.queued ++ [x] }
  | .write ok =>
    match s.queued with
    | [] => none
    | x :: queued =>
      some { s with queued, bus := s.bus ++ if ok then (h.frame x).toList else [] }
  | .receive =>
    match s.bus with
    | [] => none
    | f :: bus => some { s with bus, received := s.received ++ (h.take f).toList }
  | .deliver ok =>
    match s.received with
    | [] => none
    | x :: received =>
      some { s with received, delivered := s.delivered ++ if ok then [x] else [] }

/-- A step loses nothing. -/
def Kept (_ : State α φ) : Action α → Prop
  | .write ok | .deliver ok => ok = true
  | _ => True

variable {h : Hops α φ} {s s' : State α φ}

def State.inFlight (h : Hops α φ) (s : State α φ) : List α :=
  s.received ++ s.bus.filterMap h.take ++ s.queued.filterMap h.carry

def State.AtRest (s : State α φ) : Prop := s.queued = [] ∧ s.bus = [] ∧ s.received = []

/-- The invariant of the runs that lose nothing. -/
def Inv (h : Hops α φ) (s : State α φ) : Prop :=
  s.delivered ++ s.inFlight h = s.sent.filterMap h.carry

theorem filterMap_toList (g : φ → Option α) (o : Option φ) :
    o.toList.filterMap g = (o.bind g).toList := by
  cases o with
  | none => rfl
  | some f => cases hTake : g f <;> simp [hTake]

theorem step_inv {a : Action α} (hInv : Inv h s) (hKept : Kept s a)
    (hStep : step h s a = some s') : Inv h s' := by
  rw [Inv, State.inFlight] at *
  cases a with
  | send x =>
    cases hStep
    rw [List.filterMap_append, List.filterMap_append, ← hInv]
    simp only [List.append_assoc]
  | write ok =>
    cases (show ok = true from hKept)
    rw [step] at hStep
    split at hStep
    · cases hStep
    · rename_i x queued hQueued
      cases hStep
      have hHead : (x :: queued).filterMap h.carry =
          (h.carry x).toList ++ queued.filterMap h.carry := by
        rw [List.filterMap_cons]
        cases h.carry x <;> rfl
      rw [hQueued, hHead] at hInv
      rw [← hInv, if_pos rfl, List.filterMap_append, filterMap_toList, Hops.carry]
      simp only [List.append_assoc]
  | receive =>
    rw [step] at hStep
    split at hStep
    · cases hStep
    · rename_i f bus hBus
      cases hStep
      have hHead : (f :: bus).filterMap h.take = (h.take f).toList ++ bus.filterMap h.take := by
        rw [List.filterMap_cons]
        cases h.take f <;> rfl
      rw [hBus, hHead] at hInv
      rw [← hInv]
      simp only [List.append_assoc]
  | deliver ok =>
    cases (show ok = true from hKept)
    rw [step] at hStep
    split at hStep
    · cases hStep
    · rename_i x received hReceived
      cases hStep
      rw [hReceived] at hInv
      rw [← hInv, if_pos rfl]
      simp only [List.append_assoc, List.cons_append, List.nil_append]

/-- In every state that is reached without a loss. -/
theorem delivered_inFlight (hRun : Reaches (step h) Kept boot s) :
    s.delivered ++ s.inFlight h = s.sent.filterMap h.carry :=
  hRun.invariant (I := Inv h) rfl fun _ _ _ hInv hKept hStep => step_inv hInv hKept hStep

/-- If the hops change nothing that they carry, all is delivered if all can be carried. -/
theorem delivered_iff (hSame : ∀ x y, h.carry x = some y → y = x)
    (hRun : Reaches (step h) Kept boot s) (hRest : s.AtRest) :
    s.delivered = s.sent ↔ ∀ x ∈ s.sent, h.carry x = some x := by
  have hAll := delivered_inFlight hRun
  rw [State.inFlight, hRest.1, hRest.2.1, hRest.2.2] at hAll
  have hDelivered : s.delivered = s.sent.filterMap h.carry := by simpa using hAll
  have hFilter : s.sent.filterMap h.carry = s.sent.filter fun x => (h.carry x).isSome := by
    rw [← List.filterMap_eq_filter]
    refine List.filterMap_congr fun x _ => ?_
    cases hCarry : h.carry x with
    | none => rw [Option.guard, if_neg (by rw [hCarry]; exact Bool.false_ne_true)]
    | some y => rw [Option.guard, if_pos (by rw [hCarry]; rfl), hSame x y hCarry]
  rw [hDelivered, hFilter, List.filter_eq_self]
  refine forall₂_congr fun x _ => ?_
  cases hCarry : h.carry x with
  | none => exact iff_of_false Bool.false_ne_true (Option.some_ne_none x).symm
  | some y => rw [hSame x y hCarry]; exact iff_of_true rfl rfl

/-- A pipeline that is not empty goes on. -/
theorem progress (h : Hops α φ) (hBusy : ¬ s.AtRest) :
    ∃ a s', (∀ x, a ≠ .send x) ∧ Kept s a ∧ step h s a = some s' := by
  obtain ⟨sent, queued, bus, received, delivered⟩ := s
  cases queued with
  | cons x queued => exact ⟨.write true, _, nofun, rfl, rfl⟩
  | nil =>
    cases bus with
    | cons f bus => exact ⟨.receive, _, nofun, trivial, rfl⟩
    | nil =>
      cases received with
      | cons x received => exact ⟨.deliver true, _, nofun, rfl, rfl⟩
      | nil => exact absurd ⟨rfl, rfl, rfl⟩ hBusy

/-- An item that is sent alone is delivered as it is carried, or dropped. -/
theorem reaches_alone (h : Hops α φ) (x : α) :
    Reaches (step h) Kept boot ⟨[x], [], [], [], (h.carry x).toList⟩ := by
  have hSent : Reaches (step h) Kept boot ⟨[x], [x], [], [], []⟩ :=
    Reaches.single (a := Action.send x) trivial rfl
  have hWritten : Reaches (step h) Kept boot ⟨[x], [], (h.frame x).toList, [], []⟩ :=
    hSent.next (a := Action.write true) rfl rfl
  rw [Hops.carry]
  cases hFrame : h.frame x with
  | none =>
    rw [hFrame] at hWritten
    exact hWritten
  | some f =>
    rw [hFrame] at hWritten
    have hReceived : Reaches (step h) Kept boot ⟨[x], [], [], (h.take f).toList, []⟩ :=
      hWritten.next (a := Action.receive) trivial rfl
    rw [Option.bind_some]
    cases hTake : h.take f with
    | none =>
      rw [hTake] at hReceived
      exact hReceived
    | some y =>
      rw [hTake] at hReceived
      exact hReceived.next (a := Action.deliver true) rfl rfl

end EspHosted.Pipeline
