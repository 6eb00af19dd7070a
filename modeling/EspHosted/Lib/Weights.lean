import Mathlib.Algebra.BigOperators.Group.List.Basic
import Mathlib.Algebra.GroupWithZero.Nat
import Mathlib.Algebra.Order.BigOperators.Group.List
import Mathlib.Algebra.Order.Group.Nat

/-!
# Weights of a list of threads

Each thread of a list stands somewhere, and each place has a weight: the resources that a thread
holds there, or those that it may still ask for. `total w xs` is what all of them have together.

* `total_set`: what a step of one thread does to the total;
* `total_le`: totals are compared place by place.
-/

namespace EspHosted.Weights

variable {α : Type*}

def total (w : α → Nat) (xs : List α) : Nat := (xs.map w).sum

@[simp] theorem total_nil (w : α → Nat) : total w [] = 0 := rfl

@[simp] theorem total_cons (w : α → Nat) (x : α) (xs : List α) :
    total w (x :: xs) = w x + total w xs :=
  List.sum_cons

@[simp] theorem total_replicate (w : α → Nat) (n : Nat) (x : α) :
    total w (List.replicate n x) = n * w x := by
  simp [total]

/-- The thread `i` goes from `x` to `y`. -/
theorem total_set {w : α → Nat} {xs : List α} {i : Nat} {x y : α} (h : xs[i]? = some x) :
    total w (xs.set i y) + w x = total w xs + w y := by
  induction xs generalizing i with
  | nil => cases h
  | cons z zs ih =>
    cases i with
    | zero =>
      obtain rfl : z = x := by simpa using h
      simp only [List.set_cons_zero, total_cons]
      omega
    | succ i =>
      have hRest := ih (by simpa using h)
      simp only [List.set_cons_succ, total_cons]
      omega

theorem total_le {w v : α → Nat} (xs : List α) (h : ∀ x, w x ≤ v x) : total w xs ≤ total v xs :=
  List.sum_le_sum fun x _ => h x

/-- The comparison is strict if it is for one thread. -/
theorem total_lt {w v : α → Nat} {xs : List α} {i : Nat} {x : α} (h : ∀ x, w x ≤ v x)
    (hAt : xs[i]? = some x) (hLt : w x < v x) : total w xs < total v xs := by
  induction xs generalizing i with
  | nil => cases hAt
  | cons z zs ih =>
    have hHead := h z
    have hTail := total_le zs h
    simp only [total_cons]
    cases i with
    | zero =>
      obtain rfl : z = x := by simpa using hAt
      omega
    | succ i =>
      have hRest := ih (by simpa using hAt)
      omega

end EspHosted.Weights
