import Mathlib.Data.List.AList

/-!
# Locks that count

Locks are created and deleted, and each counts how often it is held. A lock that is not held
cannot be released, and one that is held cannot be deleted.

* `Only`: at most one lock exists, and how often it is held. There is a rule for every operation.
-/

namespace EspHosted.CountedLocks

variable {κ : Type*}

/-- The locks that exist, with how often each is held. -/
abbrev Locks (κ : Type*) := AList fun _ : κ => Nat

variable [DecidableEq κ]

/-- No lock exists but the given one, which is held as often as said. -/
def Only (lock : Option (κ × Nat)) (locks : Locks κ) : Prop :=
  ∀ h held, locks.lookup h = some held ↔ lock = some (h, held)

/-- A new lock is not held. -/
def create (h : κ) (locks : Locks κ) : Locks κ := locks.insert h 0

def acquire (h : κ) (locks : Locks κ) : Option (Locks κ) :=
  (locks.lookup h).map fun held => locks.insert h (held + 1)

def release (h : κ) (locks : Locks κ) : Option (Locks κ) :=
  match locks.lookup h with
  | some (held + 1) => some (locks.insert h held)
  | _ => none

def delete (h : κ) (locks : Locks κ) : Option (Locks κ) :=
  match locks.lookup h with
  | some 0 => some (locks.erase h)
  | _ => none

namespace Only

variable {h : κ} {held : Nat} {locks : Locks κ}

theorem empty : Only (κ := κ) none ∅ := by
  intro h held
  simp

theorem lookup (hOnly : Only (some (h, held)) locks) : locks.lookup h = some held :=
  (hOnly h held).mpr rfl

theorem lookup_none (hOnly : Only none locks) (h : κ) : locks.lookup h = none := by
  refine Option.eq_none_iff_forall_not_mem.mpr fun held hMem => ?_
  have hNone := (hOnly h held).mp hMem
  cases hNone

/-- An operation on the only lock leaves it the only one. -/
theorem insert (hOnly : Only (some (h, held)) locks) (held' : Nat) :
    Only (some (h, held')) (locks.insert h held') := by
  intro k n
  by_cases hk : k = h
  · rw [hk, AList.lookup_insert]
    simp
  · rw [AList.lookup_insert_ne hk, hOnly k n]
    simp only [Option.some.injEq, Prod.mk.injEq]
    constructor
    · exact fun hEq => absurd hEq.1.symm hk
    · exact fun hEq => absurd hEq.1.symm hk

theorem create (hOnly : Only none locks) (h : κ) :
    Only (some (h, 0)) (CountedLocks.create h locks) := by
  intro k n
  unfold CountedLocks.create
  by_cases hk : k = h
  · rw [hk, AList.lookup_insert]
    simp
  · rw [AList.lookup_insert_ne hk, hOnly.lookup_none k]
    simp only [reduceCtorEq, Option.some.injEq, Prod.mk.injEq, false_iff]
    exact fun hEq => hk hEq.1.symm

theorem acquire (hOnly : Only (some (h, held)) locks) :
    ∃ locks', CountedLocks.acquire h locks = some locks' ∧
      Only (some (h, held + 1)) locks' := by
  refine ⟨_, ?_, hOnly.insert (held + 1)⟩
  unfold CountedLocks.acquire
  rw [hOnly.lookup, Option.map_some]

theorem release (hOnly : Only (some (h, held + 1)) locks) :
    ∃ locks', CountedLocks.release h locks = some locks' ∧ Only (some (h, held)) locks' := by
  refine ⟨_, ?_, hOnly.insert held⟩
  unfold CountedLocks.release
  rw [hOnly.lookup]

theorem delete (hOnly : Only (some (h, 0)) locks) :
    ∃ locks', CountedLocks.delete h locks = some locks' ∧ Only none locks' := by
  refine ⟨locks.erase h, ?_, fun k n => ?_⟩
  · simp only [CountedLocks.delete, hOnly.lookup]
  · by_cases hk : k = h
    · rw [hk, AList.lookup_erase]
      simp
    · rw [AList.lookup_erase_ne hk, hOnly k n]
      simp only [Option.some.injEq, Prod.mk.injEq, reduceCtorEq, iff_false]
      exact fun hEq => hk hEq.1.symm

theorem delete_held (hOnly : Only (some (h, held + 1)) locks) :
    CountedLocks.delete h locks = none := by
  simp only [CountedLocks.delete, hOnly.lookup]

end Only

end EspHosted.CountedLocks
