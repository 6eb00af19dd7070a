import Mathlib.Data.List.Basic

/-!
# Registries

Entries with a key each, newest first. `put` replaces the entries of a key by one, and `drop`
removes them. Where a registry has at most one entry it is `Option.toList` of that entry.
-/

namespace EspHosted.Registry

variable {κ α : Type*} [DecidableEq κ]

def find (r : List (κ × α)) (k : κ) : Option α := (r.find? fun e => e.1 = k).map Prod.snd

def drop (r : List (κ × α)) (k : κ) : List (κ × α) := r.filter fun e => e.1 ≠ k

def put (r : List (κ × α)) (k : κ) (a : α) : List (κ × α) := (k, a) :: drop r k

theorem mem_of_find {r : List (κ × α)} {k : κ} {a : α} (h : find r k = some a) : (k, a) ∈ r := by
  obtain ⟨e, hFound, rfl⟩ := Option.map_eq_some_iff.mp h
  have hKey := List.find?_some hFound
  rw [decide_eq_true_eq] at hKey
  exact hKey ▸ List.mem_of_find?_eq_some hFound

@[simp] theorem find_nil (k : κ) : find ([] : List (κ × α)) k = none := rfl

@[simp] theorem drop_nil (k : κ) : drop ([] : List (κ × α)) k = [] := rfl

@[simp] theorem put_nil (k : κ) (a : α) : put [] k a = [(k, a)] := rfl

@[simp] theorem find_single (k : κ) (a : α) : find [(k, a)] k = some a := by
  simp [find]

@[simp] theorem drop_single (k : κ) (a : α) : drop [(k, a)] k = [] := by
  simp [drop]

@[simp] theorem put_single (k : κ) (a b : α) : put [(k, a)] k b = [(k, b)] := by
  simp [put]

theorem drop_single_of_ne {k k' : κ} (hNe : k' ≠ k) (a : α) : drop [(k', a)] k = [(k', a)] := by
  simp [drop, hNe]

/-- Only the key of the entry is found. -/
theorem find_single_iff {k k' : κ} {a b : α} : find [(k, a)] k' = some b ↔ k = k' ∧ a = b := by
  by_cases hKey : k = k'
  · rw [← hKey]
    simp
  · simp [find, hKey]

end EspHosted.Registry
