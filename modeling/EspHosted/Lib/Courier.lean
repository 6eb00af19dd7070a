import Mathlib.Data.List.Nodup
import Mathlib.Data.List.Sublists
import Mathlib.Logic.Function.Basic

/-!
# Items that are carried

An item is made ready, accepted into a queue, taken in hand by a courier, delivered or not heard by
anyone, and let go. Items in the queue can be drained instead. An item may own a block of memory,
which is freed when the item is let go or drained.

* `Carried`: every accepted item is behind the courier, in hand or in the queue, in this order, and
  every block is freed or owned by one item that is on its way;
* there is a rule for every move, `Carried.prepare` to `Carried.drain`.
-/

namespace EspHosted.Courier

variable {α : Type*}

/-- What has happened so far; the lists of items are oldest first. -/
structure Log (α : Type*) where
  next : Nat
  allocated : List Nat
  frees : Nat → Nat
  accepted : List α
  delivered : List α
  unheard : List α
  drained : List α

namespace Log

def empty : Log α := ⟨0, [], fun _ => 0, [], [], [], []⟩

/-- `free` of a pointer that may be `NULL`. -/
def free (block : Option Nat) (l : Log α) : Log α :=
  match block with
  | none => l
  | some b => { l with frees := Function.update l.frees b (l.frees b + 1) }

/-- A number, and a block under it if one is needed. -/
def allocate (block : Option Nat) (l : Log α) : Log α :=
  { l with next := l.next + 1, allocated := block.toList ++ l.allocated }

@[simp] theorem free_accepted (block : Option Nat) (l : Log α) :
    (l.free block).accepted = l.accepted := by cases block <;> rfl

@[simp] theorem free_delivered (block : Option Nat) (l : Log α) :
    (l.free block).delivered = l.delivered := by cases block <;> rfl

@[simp] theorem free_unheard (block : Option Nat) (l : Log α) :
    (l.free block).unheard = l.unheard := by cases block <;> rfl

@[simp] theorem free_drained (block : Option Nat) (l : Log α) :
    (l.free block).drained = l.drained := by cases block <;> rfl

@[simp] theorem free_allocated (block : Option Nat) (l : Log α) :
    (l.free block).allocated = l.allocated := by cases block <;> rfl

@[simp] theorem free_next (block : Option Nat) (l : Log α) : (l.free block).next = l.next := by
  cases block <;> rfl

theorem free_frees (block : Option Nat) (l : Log α) (b : Nat) :
    (l.free block).frees b = l.frees b + block.toList.count b := by
  cases block with
  | none => rfl
  | some c =>
    show Function.update l.frees c (l.frees c + 1) b = _
    by_cases hEq : b = c
    · rw [hEq, Function.update_self]
      simp
    · rw [Function.update_of_ne hEq]
      simp [Ne.symm hEq]

end Log

/-- The items in hand, of these the ones that have reached their end, the queue, and the items made
ready. -/
structure Carried (serial : α → Nat) (block : α → Option Nat) (hand reached queued ready : List α)
    (l : Log α) : Prop where
  split : ∃ past, l.accepted = past ++ hand ++ queued ∧ l.delivered.Sublist (past ++ reached) ∧
    ∀ i ∈ past ++ reached, i ∈ l.delivered ∨ i ∈ l.unheard ∨ i ∈ l.drained
  order : ((l.accepted ++ ready).map serial).Pairwise (· < ·)
  below : ∀ i ∈ l.accepted ++ ready, serial i < l.next
  blocks : ∀ b, l.frees b + ((hand ++ queued ++ ready).filterMap block).count b =
    l.allocated.count b
  nodup : l.allocated.Nodup
  fresh : ∀ b ∈ l.allocated, b < l.next

variable {serial : α → Nat} {block : α → Option Nat} {hand reached queued ready : List α}
  {l : Log α} {i : α}

namespace Carried

theorem empty : Carried serial block [] [] [] [] (Log.empty : Log α) where
  split := ⟨[], rfl, List.Sublist.refl _, fun _ h => by cases h⟩
  order := List.Pairwise.nil
  below := fun _ h => by cases h
  blocks := fun _ => rfl
  nodup := List.nodup_nil
  fresh := fun _ h => by cases h

/-! ## The moves -/

theorem prepare (h : Carried serial block hand reached queued [] l) (hSerial : serial i = l.next)
    (hBlock : ∀ b ∈ block i, b = l.next) :
    Carried serial block hand reached queued [i] (l.allocate (block i)) := by
  have hBelow := h.below
  have hOrder := h.order
  rw [List.append_nil] at hBelow hOrder
  refine ⟨h.split, ?_, ?_, ?_, ?_, ?_⟩
  · show ((l.accepted ++ [i]).map serial).Pairwise (· < ·)
    rw [List.map_append, List.pairwise_append]
    refine ⟨hOrder, List.pairwise_singleton _ _, fun a ha b hb => ?_⟩
    obtain ⟨j, hj, rfl⟩ := List.mem_map.mp ha
    rw [List.map_singleton, List.mem_singleton] at hb
    rw [hb, hSerial]
    exact hBelow j hj
  · intro j hj
    show serial j < l.next + 1
    rcases List.mem_append.mp hj with hOld | hNew
    · exact Nat.lt_succ_of_lt (hBelow j hOld)
    · rw [List.mem_singleton.mp hNew, hSerial]
      exact Nat.lt_succ_self _
  · intro b
    have hOld := h.blocks b
    show l.frees b + _ = (( block i).toList ++ l.allocated).count b
    rw [List.append_nil] at hOld
    rw [List.filterMap_append, List.count_append, List.count_append, ← hOld]
    cases hi : block i with
    | none => simp [hi]
    | some c =>
      simp only [List.filterMap_cons, hi, List.filterMap_nil, Option.toList_some]
      omega
  · show ((block i).toList ++ l.allocated).Nodup
    cases hi : block i with
    | none => exact h.nodup
    | some c =>
      refine List.nodup_cons.mpr ⟨fun hMem => ?_, h.nodup⟩
      have hLt := h.fresh c hMem
      rw [hBlock c hi] at hLt
      exact Nat.lt_irrefl _ hLt
  · intro b hb
    show b < l.next + 1
    rcases List.mem_append.mp hb with hNew | hOld
    · rw [hBlock b (Option.mem_toList.mp hNew)]
      exact Nat.lt_succ_self _
    · exact Nat.lt_succ_of_lt (h.fresh b hOld)

theorem send (h : Carried serial block hand reached queued [i] l) :
    Carried serial block hand reached (queued ++ [i]) []
      { l with accepted := l.accepted ++ [i] } := by
  obtain ⟨past, hAccepted, hDelivered, hPast⟩ := h.split
  refine ⟨⟨past, ?_, hDelivered, hPast⟩, ?_, ?_, ?_, h.nodup, h.fresh⟩
  · show l.accepted ++ [i] = _
    rw [hAccepted, List.append_assoc (past ++ hand)]
  · rw [List.append_nil]
    exact h.order
  · rw [List.append_nil]
    exact h.below
  · intro b
    have hOld := h.blocks b
    rw [List.append_nil, ← List.append_assoc]
    exact hOld

/-- An item without a block can be refused. -/
theorem refuse (h : Carried serial block hand reached queued [i] l) (hNone : block i = none) :
    Carried serial block hand reached queued [] l := by
  refine ⟨h.split, ?_, ?_, ?_, h.nodup, h.fresh⟩
  · have hOrder := h.order
    rw [List.map_append, List.pairwise_append] at hOrder
    rw [List.append_nil]
    exact hOrder.1
  · intro j hj
    rw [List.append_nil] at hj
    exact h.below j (List.mem_append_left _ hj)
  · intro b
    have hOld := h.blocks b
    rw [List.filterMap_append, List.filterMap_cons_none hNone, List.filterMap_nil,
      List.append_nil] at hOld
    rwa [List.append_nil]

theorem take (h : Carried serial block [] [] (i :: queued) ready l) :
    Carried serial block [i] [] queued ready l := by
  obtain ⟨past, hAccepted, hDelivered, hPast⟩ := h.split
  refine ⟨⟨past, ?_, hDelivered, hPast⟩, h.order, h.below, h.blocks, h.nodup, h.fresh⟩
  rw [hAccepted, List.append_nil, List.append_assoc, List.singleton_append]

theorem deliver (h : Carried serial block [i] [] queued ready l) :
    Carried serial block [i] [i] queued ready { l with delivered := l.delivered ++ [i] } := by
  obtain ⟨past, hAccepted, hDelivered, hPast⟩ := h.split
  rw [List.append_nil] at hDelivered hPast
  refine ⟨⟨past, hAccepted, hDelivered.append (List.Sublist.refl [i]), fun j hj => ?_⟩,
    h.order, h.below, h.blocks, h.nodup, h.fresh⟩
  rcases List.mem_append.mp hj with hOld | hNew
  · exact (hPast j hOld).imp_left (List.mem_append_left _)
  · exact .inl (List.mem_append_right _ hNew)

theorem ignore (h : Carried serial block [i] [] queued ready l) :
    Carried serial block [i] [i] queued ready { l with unheard := l.unheard ++ [i] } := by
  obtain ⟨past, hAccepted, hDelivered, hPast⟩ := h.split
  rw [List.append_nil] at hDelivered hPast
  refine ⟨⟨past, hAccepted, hDelivered.trans (List.sublist_append_left _ _), fun j hj => ?_⟩,
    h.order, h.below, h.blocks, h.nodup, h.fresh⟩
  rcases List.mem_append.mp hj with hOld | hNew
  · exact (hPast j hOld).imp_right (Or.imp_left (List.mem_append_left _))
  · exact .inr (.inl (List.mem_append_right _ hNew))

/-- The block of an item that is let go is freed. -/
theorem free_blocks {rest : List α} (h : ∀ b, l.frees b + ((i :: rest).filterMap block).count b =
    l.allocated.count b) (b : Nat) :
    (l.free (block i)).frees b + (rest.filterMap block).count b =
      (l.free (block i)).allocated.count b := by
  rw [Log.free_frees, Log.free_allocated, ← h b]
  cases hi : block i with
  | none => simp [hi]
  | some c =>
    simp only [List.filterMap_cons, hi, Option.toList_some, List.count_cons, List.count_nil]
    omega

theorem letGo (h : Carried serial block [i] [i] queued ready l) :
    Carried serial block [] [] queued ready (l.free (block i)) := by
  obtain ⟨past, hAccepted, hDelivered, hPast⟩ := h.split
  refine ⟨⟨past ++ [i], ?_, ?_, ?_⟩, ?_, ?_, free_blocks h.blocks, ?_, ?_⟩
  · rw [Log.free_accepted, List.append_nil]
    exact hAccepted
  · rw [Log.free_delivered, List.append_nil]
    exact hDelivered
  · simpa using hPast
  · simpa using h.order
  · simpa using h.below
  · simpa using h.nodup
  · simpa using h.fresh

theorem drain (h : Carried serial block [] [] (i :: queued) ready l) :
    Carried serial block [] [] queued ready
      { l.free (block i) with drained := l.drained ++ [i] } := by
  obtain ⟨past, hAccepted, hDelivered, hPast⟩ := h.split
  rw [List.append_nil] at hDelivered hPast
  refine ⟨⟨past ++ [i], ?_, ?_, fun j hj => ?_⟩, ?_, ?_, free_blocks h.blocks, ?_, ?_⟩
  · show (l.free (block i)).accepted = _
    rw [Log.free_accepted, hAccepted, List.append_nil, List.append_nil, List.append_assoc,
      List.singleton_append]
  · show (l.free (block i)).delivered.Sublist _
    rw [Log.free_delivered, List.append_nil]
    exact hDelivered.trans (List.sublist_append_left _ _)
  · rw [List.append_nil] at hj
    simp only [Log.free_delivered, Log.free_unheard]
    rcases List.mem_append.mp hj with hOld | hNew
    · exact (hPast j hOld).imp_right (Or.imp_right (List.mem_append_left _))
    · exact .inr (.inr (List.mem_append_right _ hNew))
  · simpa using h.order
  · simpa using h.below
  · simpa using h.nodup
  · simpa using h.fresh

/-! ## What is carried -/

/-- A block is freed once, or is on its way with one item. -/
theorem freed_or_owned (h : Carried serial block hand reached queued ready l) (b : Nat) :
    l.frees b ≤ 1 ∧ (l.frees b ≠ 0 → b ∈ l.allocated) ∧
      (b ∈ (hand ++ queued ++ ready).filterMap block ↔ b ∈ l.allocated ∧ l.frees b = 0) := by
  have hBlocks := h.blocks b
  have hOnce := List.nodup_iff_count_le_one.mp h.nodup b
  refine ⟨by omega, fun hFreed => ?_, fun hOwned => ?_, fun hBoth => ?_⟩
  · exact List.count_pos_iff.mp (by omega)
  · have hPos := List.count_pos_iff.mpr hOwned
    exact ⟨List.count_pos_iff.mp (by omega), by omega⟩
  · have hPos := List.count_pos_iff.mpr hBoth.1
    exact List.count_pos_iff.mp (by omega)

theorem delivered_sublist (h : Carried serial block hand reached queued ready l)
    (hReached : reached.Sublist hand) : l.delivered.Sublist l.accepted := by
  obtain ⟨past, hAccepted, hDelivered, -⟩ := h.split
  rw [hAccepted]
  refine hDelivered.trans (List.Sublist.trans ?_ (List.sublist_append_left _ _))
  exact (List.Sublist.refl past).append hReached

theorem accepted_nodup (h : Carried serial block hand reached queued ready l) :
    (l.accepted.map serial).Nodup := by
  have hOrder := h.order
  rw [List.map_append, List.pairwise_append] at hOrder
  exact hOrder.1.imp fun hLt => Nat.ne_of_lt hLt

/-- Where an accepted item is. -/
theorem found (h : Carried serial block hand reached queued ready l) (hMem : i ∈ l.accepted) :
    i ∈ l.delivered ∨ i ∈ l.unheard ∨ i ∈ l.drained ∨ i ∈ hand ∨ i ∈ queued := by
  obtain ⟨past, hAccepted, -, hPast⟩ := h.split
  rw [hAccepted, List.mem_append, List.mem_append] at hMem
  rcases hMem with (hPast' | hHand) | hQueued
  · rcases hPast i (List.mem_append_left _ hPast') with hDelivered | hUnheard | hDrained
    · exact .inl hDelivered
    · exact .inr (.inl hUnheard)
    · exact .inr (.inr (.inl hDrained))
  · exact .inr (.inr (.inr (.inl hHand)))
  · exact .inr (.inr (.inr (.inr hQueued)))

/-- An item that has reached its end is behind the courier. -/
theorem found_reached (h : Carried serial block hand reached queued ready l) (hMem : i ∈ reached) :
    i ∈ l.delivered ∨ i ∈ l.unheard ∨ i ∈ l.drained := by
  obtain ⟨past, -, -, hPast⟩ := h.split
  exact hPast i (List.mem_append_right _ hMem)

end Carried

end EspHosted.Courier
