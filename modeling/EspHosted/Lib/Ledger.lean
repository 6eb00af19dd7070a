import Mathlib.Logic.Function.Basic
import Mathlib.Order.Basic

/-!
# Freeing every resource once

A ledger of how often each resource was freed, kept against two predicates: a resource that is
`used` must not have been freed, and one that is `settled` must have been.

* `Ledger.keep`: a step that frees nothing may end uses, and settles nothing new;
* `Ledger.release`: a step that frees resources ends every use of them.
-/

namespace EspHosted

variable {ι : Type*}

structure Ledger (used settled : ι → Prop) (freed : ι → Nat) : Prop where
  used : ∀ k, used k → freed k = 0
  once : ∀ k, freed k ≤ 1
  settled : ∀ k, settled k → freed k = 1

namespace Ledger

variable {used used' settled settled' : ι → Prop} {freed freed' : ι → Nat}

theorem keep (h : Ledger used settled freed) (hUsed : ∀ k, used' k → used k)
    (hSettled : ∀ k, settled' k → settled k) : Ledger used' settled' freed :=
  ⟨fun k hk => h.used k (hUsed k hk), h.once, fun k hk => h.settled k (hSettled k hk)⟩

/-- `n k` says how often `k` is freed by the step. -/
theorem release (h : Ledger used settled freed) (n : ι → Nat)
    (hFreed : ∀ k, freed' k = freed k + n k) (hOnce : ∀ k, n k ≤ 1)
    (hWas : ∀ k, n k ≠ 0 → used k) (hUsed : ∀ k, used' k → used k ∧ n k = 0)
    (hSettled : ∀ k, settled' k → settled k ∨ n k = 1) : Ledger used' settled' freed' := by
  refine ⟨?_, ?_, ?_⟩
  · intro k hk
    obtain ⟨hOld, hNone⟩ := hUsed k hk
    rw [hFreed, h.used k hOld, hNone]
  · intro k
    rw [hFreed]
    by_cases hNone : n k = 0
    · rw [hNone]
      exact h.once k
    · rw [h.used k (hWas k hNone), Nat.zero_add]
      exact hOnce k
  · intro k hk
    rw [hFreed]
    rcases hSettled k hk with hOld | hOne
    · have hNone : n k = 0 := by
        by_contra hSome
        have hZero := h.used k (hWas k hSome)
        rw [h.settled k hOld] at hZero
        cases hZero
      rw [hNone, h.settled k hOld]
    · rw [h.used k (hWas k (by omega)), hOne]

/-- One resource is freed. -/
theorem releaseOne [DecidableEq ι] (h : Ledger used settled freed) {k : ι} (hWas : used k)
    (hUsed : ∀ j, used' j → used j ∧ j ≠ k) (hSettled : ∀ j, settled' j → settled j ∨ j = k) :
    Ledger used' settled' (Function.update freed k (freed k + 1)) := by
  apply h.release fun j => if j = k then 1 else 0
  · intro j
    by_cases hEq : j = k
    · subst hEq
      rw [Function.update_self, if_pos rfl]
    · rw [Function.update_of_ne hEq, if_neg hEq, Nat.add_zero]
  · intro j
    split <;> omega
  · intro j hj
    by_cases hEq : j = k
    · rwa [hEq]
    · exact absurd (if_neg hEq) hj
  · intro j hj
    obtain ⟨hOld, hNe⟩ := hUsed j hj
    exact ⟨hOld, if_neg hNe⟩
  · exact fun j hj => (hSettled j hj).imp_right fun hEq => if_pos hEq

end Ledger

end EspHosted
