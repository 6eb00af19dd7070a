import Mathlib.Data.List.Perm.Basic
import Mathlib.Data.List.Nodup
import Mathlib.Logic.Function.Basic

/-!
# A queue for each priority

A producer sends to the queue of a priority, which has room for a fixed number of items. The
consumer tries the queues in an order and receives from the first that is not empty.

* `perm_send`, `perm_receive`: what is in the queues, as one list up to its order;
* `length_all_le`: how much that is at most.
-/

namespace EspHosted.PrioQueues

variable {ι α : Type*} [DecidableEq ι]

/-- The items of all queues. -/
def all (order : List ι) (queues : ι → List α) : List α := order.flatMap queues

def send (size : Nat) (queues : ι → List α) (i : ι) (x : α) : Option (ι → List α) :=
  if (queues i).length < size then some (Function.update queues i (queues i ++ [x])) else none

def receive : List ι → (ι → List α) → Option (α × (ι → List α))
  | [], _ => none
  | i :: order, queues =>
    match queues i with
    | x :: rest => some (x, Function.update queues i rest)
    | [] => receive order queues

variable {order : List ι} {queues queues' : ι → List α} {i : ι} {x : α} {size : Nat}

theorem all_update_of_notMem (hNot : i ∉ order) (l : List α) :
    all order (Function.update queues i l) = all order queues := by
  unfold all
  refine List.flatMap_congr fun j hj => Function.update_of_ne ?_ _ _
  rintro rfl
  exact hNot hj

/-- Changing one queue by an item changes the whole by that item. -/
theorem perm_update (hNodup : order.Nodup) (hMem : i ∈ order) {l : List α}
    (hPerm : l.Perm (x :: queues i)) :
    (all order (Function.update queues i l)).Perm (x :: all order queues) := by
  induction order with
  | nil => cases hMem
  | cons j order ih =>
    obtain ⟨hHead, hTail⟩ := List.nodup_cons.mp hNodup
    unfold all at ih ⊢
    rw [List.flatMap_cons, List.flatMap_cons]
    rcases List.mem_cons.mp hMem with rfl | hRest
    · have hSame : all order (Function.update queues i l) = all order queues :=
        all_update_of_notMem hHead l
      unfold all at hSame
      rw [hSame, Function.update_self]
      exact hPerm.append_right _
    · have hNe : j ≠ i := fun hEq => hHead (hEq ▸ hRest)
      rw [Function.update_of_ne hNe]
      exact ((ih hTail hRest).append_left _).trans List.perm_middle

theorem perm_send (hNodup : order.Nodup) (hMem : i ∈ order)
    (h : send size queues i x = some queues') :
    (all order queues').Perm (x :: all order queues) := by
  unfold send at h
  split at h
  · cases h
    exact perm_update hNodup hMem (List.perm_append_singleton _ _)
  · cases h

/-- What is received was first in one of the queues. -/
theorem receive_cases (h : receive order queues = some (x, queues')) :
    ∃ i ∈ order, ∃ rest, queues i = x :: rest ∧ queues' = Function.update queues i rest := by
  induction order with
  | nil => cases h
  | cons j order ih =>
    rw [receive] at h
    split at h
    · rename_i y rest hQueue
      cases h
      exact ⟨j, List.mem_cons_self, rest, hQueue, rfl⟩
    · obtain ⟨i, hi, hRest⟩ := ih h
      exact ⟨i, List.mem_cons_of_mem _ hi, hRest⟩

theorem perm_receive (hNodup : order.Nodup) (h : receive order queues = some (x, queues')) :
    (all order queues).Perm (x :: all order queues') := by
  obtain ⟨i, hi, rest, hQueue, rfl⟩ := receive_cases h
  have hPerm : (all order (Function.update (Function.update queues i rest) i (queues i))).Perm
      (x :: all order (Function.update queues i rest)) :=
    perm_update hNodup hi (by rw [hQueue, Function.update_self])
  rwa [Function.update_idem, Function.update_eq_self] at hPerm

/-- The bound on each queue is kept. -/
theorem length_send (h : send size queues i x = some queues')
    (hSize : ∀ j, (queues j).length ≤ size) (j : ι) : (queues' j).length ≤ size := by
  unfold send at h
  split at h
  · rename_i hRoom
    cases h
    by_cases hEq : j = i
    · subst hEq
      rw [Function.update_self, List.length_append, List.length_singleton]
      exact hRoom
    · rw [Function.update_of_ne hEq]
      exact hSize j
  · cases h

theorem length_receive (h : receive order queues = some (x, queues'))
    (hSize : ∀ j, (queues j).length ≤ size) (j : ι) : (queues' j).length ≤ size := by
  obtain ⟨i, -, rest, hQueue, rfl⟩ := receive_cases h
  by_cases hEq : j = i
  · subst hEq
    have hLength := hSize j
    rw [hQueue, List.length_cons] at hLength
    rw [Function.update_self]
    omega
  · rw [Function.update_of_ne hEq]
    exact hSize j

omit [DecidableEq ι] in
theorem length_all_le (order : List ι) (h : ∀ i, (queues i).length ≤ size) :
    (all order queues).length ≤ order.length * size := by
  induction order with
  | nil => exact Nat.zero_le _
  | cons i order ih =>
    have hHead := h i
    unfold all at ih ⊢
    rw [List.flatMap_cons, List.length_append, List.length_cons, Nat.add_mul]
    omega

end EspHosted.PrioQueues
