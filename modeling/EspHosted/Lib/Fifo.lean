import Mathlib.Data.List.Basic
import Mathlib.Data.Nat.ModEq

/-!
# First in, first out

What happens to a queue is a list of events: an item is put in, an item is got out, the queue is
cleared. `replay` runs the events on a list and fails where an item comes out that is not the
first one.

`Ring` says that the items of a list stand in a circular buffer from a given place on.

* `replay_sublist`: what comes out of a queue is a sublist of what was put in;
* `replay_balance`: without a clearing nothing is missing;
* `Ring.push`, `Ring.pop`: the two ends of a circular buffer.
-/

namespace EspHosted.Fifo

variable {α : Type*}

inductive Event (α : Type*)
  | put (x : α)
  | get (x : α)
  | clear

/-- The items that were put in. -/
def puts : List (Event α) → List α
  | [] => []
  | .put x :: es => x :: puts es
  | _ :: es => puts es

/-- The items that came out. -/
def gets : List (Event α) → List α
  | [] => []
  | .get x :: es => x :: gets es
  | _ :: es => gets es

/-- The events happen to a queue that has the items of the list, first in, first out. -/
def replay [DecidableEq α] : List α → List (Event α) → Option (List α)
  | q, [] => some q
  | q, .put x :: es => replay (q ++ [x]) es
  | [], .get _ :: _ => none
  | y :: q, .get x :: es => if x = y then replay q es else none
  | _, .clear :: es => replay [] es

section Replay

variable [DecidableEq α]

theorem replay_append (q : List α) (es fs : List (Event α)) :
    replay q (es ++ fs) = (replay q es).bind fun q' => replay q' fs := by
  induction es generalizing q with
  | nil => rfl
  | cons e es ih =>
    cases e with
    | put x => exact ih _
    | get x =>
      cases q with
      | nil => rfl
      | cons y q =>
        simp only [List.cons_append, replay]
        split
        · exact ih q
        · rfl
    | clear => exact ih []

/-- What comes out, followed by what is still there, is a sublist of what was there and what was
put in, in this order. -/
theorem replay_sublist {q q' : List α} {es : List (Event α)} (h : replay q es = some q') :
    (gets es ++ q').Sublist (q ++ puts es) := by
  induction es generalizing q with
  | nil =>
    cases h
    simp [gets, puts]
  | cons e es ih =>
    cases e with
    | put x =>
      have hRest := ih h
      simpa [gets, puts] using hRest
    | get x =>
      cases q with
      | nil => cases h
      | cons y q =>
        simp only [replay, Option.ite_none_right_eq_some] at h
        obtain ⟨rfl, hRest⟩ := h
        exact (ih hRest).cons_cons x
    | clear => exact (ih h).trans (List.sublist_append_right q _)

/-- Without a clearing nothing is missing. -/
theorem replay_balance {q q' : List α} {es : List (Event α)} (h : replay q es = some q')
    (hKept : ∀ e ∈ es, e ≠ .clear) : gets es ++ q' = q ++ puts es := by
  induction es generalizing q with
  | nil =>
    cases h
    simp [gets, puts]
  | cons e es ih =>
    have hRest : ∀ e ∈ es, e ≠ .clear := fun e he => hKept e (List.mem_cons_of_mem _ he)
    cases e with
    | put x =>
      have hEq := ih h hRest
      simpa [gets, puts] using hEq
    | get x =>
      cases q with
      | nil => cases h
      | cons y q =>
        simp only [replay, Option.ite_none_right_eq_some] at h
        obtain ⟨rfl, h⟩ := h
        exact congrArg (x :: ·) (ih h hRest)
    | clear => exact absurd rfl (hKept _ List.mem_cons_self)

theorem replay_put {q q' : List α} {es : List (Event α)} (h : replay q es = some q') (x : α) :
    replay q (es ++ [.put x]) = some (q' ++ [x]) := by
  rw [replay_append, h]
  rfl

theorem replay_get {q q' : List α} {es : List (Event α)} {x : α}
    (h : replay q es = some (x :: q')) : replay q (es ++ [.get x]) = some q' := by
  rw [replay_append, h]
  exact if_pos rfl

theorem replay_clear {q q' : List α} {es : List (Event α)} (h : replay q es = some q') :
    replay q (es ++ [.clear]) = some [] := by
  rw [replay_append, h]
  rfl

end Replay

/-! ## Circular buffers -/

/-- The items stand in the buffer from `head` on. -/
structure Ring (buf : List α) (head : Nat) (items : List α) : Prop where
  fits : items.length ≤ buf.length
  items : ∀ i, i < items.length → buf[(head + i) % buf.length]? = items[i]?

theorem Ring.nil (buf : List α) (head : Nat) : Ring buf head [] := ⟨Nat.zero_le _, nofun⟩

/-- Places that are less than the size apart are different. -/
theorem ring_index_ne {n head i j : Nat} (hi : i < j) (hj : j < n) :
    (head + i) % n ≠ (head + j) % n := by
  intro hEq
  have hMod : i ≡ j [MOD n] := Nat.ModEq.add_left_cancel' head hEq
  rw [Nat.ModEq, Nat.mod_eq_of_lt (by omega), Nat.mod_eq_of_lt hj] at hMod
  omega

theorem Ring.push {buf : List α} {head : Nat} {items : List α} (h : Ring buf head items)
    (hRoom : items.length < buf.length) (x : α) :
    Ring (buf.set ((head + items.length) % buf.length) x) head (items ++ [x]) := by
  have hIndex : (head + items.length) % buf.length < buf.length := Nat.mod_lt _ (by omega)
  refine ⟨by simpa using Nat.succ_le_of_lt hRoom, fun i hi => ?_⟩
  rw [List.length_append, List.length_singleton] at hi
  rw [List.length_set]
  by_cases hLast : i = items.length
  · rw [hLast, List.getElem?_set_self hIndex, List.getElem?_append_right (Nat.le_refl _)]
    simp
  · have hLess : i < items.length := by omega
    rw [List.getElem?_set_ne (ring_index_ne hLess hRoom).symm, h.items i hLess,
      List.getElem?_append_left hLess]

theorem Ring.first {buf : List α} {head : Nat} {x : α} {items : List α}
    (h : Ring buf head (x :: items)) (hHead : head < buf.length) : buf[head]? = some x := by
  have hFirst := h.items 0 (by simp)
  rwa [Nat.add_zero, Nat.mod_eq_of_lt hHead] at hFirst

theorem Ring.pop {buf : List α} {head : Nat} {x : α} {items : List α}
    (h : Ring buf head (x :: items)) : Ring buf ((head + 1) % buf.length) items := by
  have hFits : items.length + 1 ≤ buf.length := h.fits
  refine ⟨by omega, fun i hi => ?_⟩
  have hNext := h.items (i + 1) (by simpa using hi)
  have hPlace : ((head + 1) % buf.length + i) % buf.length = (head + (i + 1)) % buf.length := by
    rw [Nat.mod_add_mod]
    congr 1
    omega
  rw [hPlace, hNext]
  rfl

end EspHosted.Fifo
