import Mathlib.Algebra.Group.Nat.Defs
import Mathlib.Data.List.Nodup
import Mathlib.Logic.Function.Basic

/-!
# Free lists in the blocks themselves

A memory maps the address of a cell to what the cell holds. `Chain mem a l` says that the list of
addresses `l` starts at `a` and that every cell of it holds the address of the next; 0 ends it.
`blocks start size n` are `n` blocks of the same size in a row, and `linkBlocks` threads them.

* `Chain.congr`: a chain does not depend on other cells;
* `chain_linkBlocks`: the threaded blocks are a chain;
* `blocks_apart`: two blocks do not overlap.
-/

namespace EspHosted.FreeList

inductive Chain (mem : Nat → Nat) : Nat → List Nat → Prop
  | nil : Chain mem 0 []
  | cons {a : Nat} {l : List Nat} : a ≠ 0 → Chain mem (mem a) l → Chain mem a (a :: l)

section Chain

variable {mem mem' : Nat → Nat} {a : Nat} {l : List Nat}

theorem Chain.congr (h : Chain mem a l) (hSame : ∀ b ∈ l, mem' b = mem b) : Chain mem' a l := by
  induction h with
  | nil => exact .nil
  | cons hNe _ ih =>
    refine .cons hNe ?_
    rw [hSame _ List.mem_cons_self]
    exact ih fun b hMem => hSame b (List.mem_cons_of_mem _ hMem)

/-- A chain that is not empty starts with its head. -/
theorem Chain.exists_cons (h : Chain mem a l) (hLength : l.length ≠ 0) :
    ∃ rest, l = a :: rest ∧ a ≠ 0 ∧ Chain mem (mem a) rest := by
  cases h with
  | nil => exact absurd rfl hLength
  | cons hNe hRest => exact ⟨_, rfl, hNe, hRest⟩

end Chain

/-! ## Blocks in a row -/

def blocks (start size n : Nat) : List Nat := (List.range n).map fun i => start + i * size

section Blocks

variable {start size n b b' : Nat}

theorem mem_blocks : b ∈ blocks start size n ↔ ∃ i < n, start + i * size = b := by
  simp [blocks]

theorem blocks_succ : blocks start size (n + 1) = start :: blocks (start + size) size n := by
  simp only [blocks, List.range_succ_eq_map, List.map_cons, List.map_map, Nat.zero_mul,
    Nat.add_zero]
  congr 1
  refine List.map_congr_left fun i _ => ?_
  show start + (i + 1) * size = start + size + i * size
  rw [Nat.add_mul, Nat.one_mul]
  omega

theorem length_blocks : (blocks start size n).length = n := by
  rw [blocks, List.length_map, List.length_range]

theorem blocks_inside (hMem : b ∈ blocks start size n) :
    start ≤ b ∧ b + size ≤ start + n * size := by
  obtain ⟨i, hi, rfl⟩ := mem_blocks.mp hMem
  have hRow : (i + 1) * size ≤ n * size := Nat.mul_le_mul_right size hi
  rw [Nat.add_mul, Nat.one_mul] at hRow
  omega

theorem blocks_apart (hMem : b ∈ blocks start size n) (hMem' : b' ∈ blocks start size n)
    (hNe : b ≠ b') : b + size ≤ b' ∨ b' + size ≤ b := by
  obtain ⟨i, -, rfl⟩ := mem_blocks.mp hMem
  obtain ⟨j, -, rfl⟩ := mem_blocks.mp hMem'
  rcases Nat.lt_trichotomy i j with hLess | rfl | hMore
  · have hRow : (i + 1) * size ≤ j * size := Nat.mul_le_mul_right size hLess
    rw [Nat.add_mul, Nat.one_mul] at hRow
    omega
  · exact absurd rfl hNe
  · have hRow : (j + 1) * size ≤ i * size := Nat.mul_le_mul_right size hMore
    rw [Nat.add_mul, Nat.one_mul] at hRow
    omega

theorem nodup_blocks (hSize : 0 < size) : (blocks start size n).Nodup := by
  refine List.nodup_range.map fun i j hEq => ?_
  have hMul : i * size = j * size := Nat.add_left_cancel hEq
  exact Nat.eq_of_mul_eq_mul_right hSize hMul

end Blocks

/-! ## Threading the blocks -/

/-- The loop that threads the block at `ptr` and the `n` blocks behind it. -/
def linkBlocks (mem : Nat → Nat) (ptr size : Nat) : Nat → Nat → Nat
  | 0 => Function.update mem ptr 0
  | n + 1 => linkBlocks (Function.update mem ptr (ptr + size)) (ptr + size) size n

section Link

variable {mem : Nat → Nat} {ptr size n a : Nat}

/-- Only the blocks are written. -/
theorem linkBlocks_of_not_mem (hNot : a ∉ blocks ptr size (n + 1)) :
    linkBlocks mem ptr size n a = mem a := by
  induction n generalizing mem ptr with
  | zero =>
    refine Function.update_of_ne ?_ ..
    rintro rfl
    exact hNot (mem_blocks.mpr ⟨0, Nat.one_pos, by simp⟩)
  | succ n ih =>
    rw [blocks_succ, List.mem_cons, not_or] at hNot
    rw [linkBlocks, ih hNot.2, Function.update_of_ne hNot.1]

theorem chain_linkBlocks (hSize : 0 < size) (hPtr : ptr ≠ 0) :
    Chain (linkBlocks mem ptr size n) ptr (blocks ptr size (n + 1)) := by
  induction n generalizing mem ptr with
  | zero =>
    rw [blocks_succ]
    refine .cons hPtr ?_
    rw [linkBlocks, Function.update_self]
    exact .nil
  | succ n ih =>
    rw [blocks_succ]
    have hNext : linkBlocks mem ptr size (n + 1) ptr = ptr + size := by
      rw [linkBlocks, linkBlocks_of_not_mem, Function.update_self]
      intro hMem
      have hInside := blocks_inside hMem
      omega
    refine .cons hPtr ?_
    rw [hNext]
    exact ih (by omega)

end Link

end EspHosted.FreeList
