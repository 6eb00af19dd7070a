import Mathlib.Data.List.Range
import Mathlib.Data.List.Nodup

/-!
# Blocks of a pool

A pool of a fixed number of blocks. Blocks are numbered in the order in which they are taken, so
that one that is returned and taken again has a new number.

`Holds` says that every block that was taken was returned once, or is held in one place.

* `Holds.alloc`, `Holds.free`: the two operations;
* `Holds.alloc_eq_none_iff`: when no block is left;
* `Holds.count_returned`: what is not held was returned once.
-/

namespace EspHosted.Blocks

structure Pool where
  size : Nat
  taken : Nat
  returned : List Nat
  deriving DecidableEq

def create (size : Nat) : Pool := ⟨size, 0, []⟩

namespace Pool

/-- How many blocks are taken and not returned. -/
def outstanding (p : Pool) : Nat := p.taken - p.returned.length

/-- Takes a block if one is left. -/
def alloc (p : Pool) : Option (Nat × Pool) :=
  if p.outstanding < p.size then some (p.taken, { p with taken := p.taken + 1 }) else none

def free (p : Pool) (block : Nat) : Pool := { p with returned := block :: p.returned }

def Holds (p : Pool) (held : List Nat) : Prop :=
  (p.returned ++ held).Perm (List.range p.taken)

namespace Holds

variable {p p' : Pool} {held held' : List Nat} {block : Nat}

theorem create (size : Nat) : (create size).Holds [] := List.Perm.refl _

theorem outstanding_eq (h : p.Holds held) : p.outstanding = held.length := by
  have hLength := h.length_eq
  rw [List.length_append, List.length_range] at hLength
  rw [outstanding]
  omega

theorem alloc_eq_none_iff (h : p.Holds held) : p.alloc = none ↔ p.size ≤ held.length := by
  unfold Pool.alloc
  rw [h.outstanding_eq]
  split <;> simp <;> omega

/-- What is held may change places. -/
theorem perm (h : p.Holds held) (hPerm : held.Perm held') : p.Holds held' :=
  (hPerm.symm.append_left _).trans h

theorem alloc (h : p.Holds held) (hAlloc : p.alloc = some (block, p')) :
    p'.Holds (block :: held) := by
  unfold Pool.alloc at hAlloc
  split at hAlloc
  · cases hAlloc
    unfold Holds
    rw [List.range_succ]
    exact List.perm_middle.trans ((h.cons p.taken).trans (List.perm_append_singleton _ _).symm)
  · cases hAlloc

theorem free (h : p.Holds (block :: held)) : (p.free block).Holds held :=
  List.perm_middle.symm.trans h

theorem count_le (h : p.Holds held) (k : Nat) : p.returned.count k ≤ 1 := by
  have hCount := h.count_eq k
  rw [List.count_append] at hCount
  have hOnce := List.nodup_iff_count_le_one.mp (List.nodup_range (n := p.taken)) k
  omega

theorem count_returned (h : p.Holds held) {k : Nat} (hTaken : k < p.taken) (hNot : k ∉ held) :
    p.returned.count k = 1 := by
  have hCount := h.count_eq k
  rw [List.count_append, List.count_eq_zero.mpr hNot] at hCount
  rw [← Nat.add_zero (p.returned.count k), hCount]
  exact List.count_eq_one_of_mem List.nodup_range (List.mem_range.mpr hTaken)

end Holds

theorem alloc_size {p p' : Pool} {block : Nat} (h : p.alloc = some (block, p')) :
    p'.size = p.size := by
  unfold alloc at h
  split at h
  · cases h
    rfl
  · cases h

end Pool

end EspHosted.Blocks
