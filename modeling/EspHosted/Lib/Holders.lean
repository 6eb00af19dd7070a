import Mathlib.Data.List.Basic
import Mathlib.Logic.Function.Basic

/-!
# Blocks held by variables

Every variable holds at most one block. Blocks are numbered as they are allocated, and a block
remembers how many of its bytes were wiped when it was freed.

* `Tidy`: a block is held by one variable, or was wiped over its full length and freed once. It is
  kept by allocating for an empty variable, and by freeing what a variable holds;
* `Freed.release`: what was freed stays so.
-/

namespace EspHosted.Holders

structure Block where
  size : Nat
  wiped : Nat
  frees : Nat
  deriving DecidableEq

structure Heap (ι : Type*) where
  cell : ι → Option Nat
  blocks : List Block

variable {ι : Type*}

def empty : Heap ι := ⟨fun _ => none, []⟩

def Live (h : Heap ι) (p : Nat) : Prop := ∃ b, h.blocks[p]? = some b ∧ b.frees = 0

def Freed (h : Heap ι) (p : Nat) : Prop := ∃ b, h.blocks[p]? = some b ∧ b.frees ≠ 0

theorem Freed.not_live {h : Heap ι} {p : Nat} (hFreed : Freed h p) : ¬ Live h p := by
  rintro ⟨b, hb, hZero⟩
  obtain ⟨b', hb', hNe⟩ := hFreed
  cases hb.symm.trans hb'
  exact hNe hZero

structure Tidy (h : Heap ι) : Prop where
  live : ∀ c p, h.cell c = some p → Live h p
  inj : ∀ c c' p, h.cell c = some p → h.cell c' = some p → c = c'
  once : ∀ p b, h.blocks[p]? = some b →
    (b.frees = 0 ∧ ∃ c, h.cell c = some p) ∨ (b.frees = 1 ∧ b.wiped = b.size)

theorem empty_tidy : Tidy (empty : Heap ι) where
  live := fun _ _ h => by cases h
  inj := fun _ _ _ h => by cases h
  once := fun _ _ h => by cases h

variable [DecidableEq ι]

/-- A new block for a variable. -/
def alloc (c : ι) (size : Nat) (h : Heap ι) : Heap ι :=
  ⟨Function.update h.cell c (some h.blocks.length), h.blocks ++ [⟨size, 0, 0⟩]⟩

/-- The block of a variable is wiped and freed, if there is one. -/
def release (c : ι) (wiped : Nat) (h : Heap ι) : Heap ι :=
  match h.cell c with
  | none => h
  | some p => ⟨Function.update h.cell c none,
      h.blocks.modify p fun b => { b with wiped := wiped, frees := b.frees + 1 }⟩

section

variable {h : Heap ι} {c : ι} {n p : Nat}

@[simp] theorem alloc_cell_self : (alloc c n h).cell c = some h.blocks.length :=
  Function.update_self c _ _

theorem alloc_cell_of_ne {c' : ι} (hNe : c' ≠ c) : (alloc c n h).cell c' = h.cell c' :=
  Function.update_of_ne hNe _ _

theorem alloc_block_of_some {b : Block} (hb : h.blocks[p]? = some b) :
    (alloc c n h).blocks[p]? = some b := by
  have hLt : p < h.blocks.length := (List.getElem?_eq_some_iff.mp hb).1
  show (h.blocks ++ _)[p]? = _
  rw [List.getElem?_append_left hLt, hb]

theorem alloc_block_new : (alloc c n h).blocks[h.blocks.length]? = some ⟨n, 0, 0⟩ := by
  show (h.blocks ++ _)[h.blocks.length]? = _
  simp

theorem release_of_none (hNone : h.cell c = none) : release c n h = h := by
  simp only [release, hNone]

theorem release_of_some (hSome : h.cell c = some p) : release c n h =
    ⟨Function.update h.cell c none,
      h.blocks.modify p fun b => { b with wiped := n, frees := b.frees + 1 }⟩ := by
  simp only [release, hSome]

@[simp] theorem release_cell_self : (release c n h).cell c = none := by
  cases hCell : h.cell c with
  | none => rwa [release_of_none hCell]
  | some p =>
    rw [release_of_some hCell]
    exact Function.update_self c _ _

theorem release_cell_of_ne {c' : ι} (hNe : c' ≠ c) : (release c n h).cell c' = h.cell c' := by
  cases hCell : h.cell c with
  | none => rw [release_of_none hCell]
  | some p =>
    rw [release_of_some hCell]
    exact Function.update_of_ne hNe _ _

/-- Other blocks stay as they are. -/
theorem release_block_of_ne {q : Nat} (hNe : h.cell c ≠ some q) :
    (release c n h).blocks[q]? = h.blocks[q]? := by
  cases hCell : h.cell c with
  | none => rw [release_of_none hCell]
  | some p =>
    have hpq : p ≠ q := fun hEq => hNe (hEq ▸ hCell)
    rw [release_of_some hCell]
    show (h.blocks.modify p _)[q]? = _
    simp [hpq]

theorem release_block_self {b : Block} (hCell : h.cell c = some p) (hb : h.blocks[p]? = some b) :
    (release c n h).blocks[p]? = some { b with wiped := n, frees := b.frees + 1 } := by
  rw [release_of_some hCell]
  show (h.blocks.modify p _)[p]? = _
  rw [List.getElem?_modify, hb]
  simp

end

section

variable {h : Heap ι} {c : ι} {n p : Nat}

theorem Freed.alloc (hFreed : Freed h p) : Freed (Holders.alloc c n h) p := by
  obtain ⟨b, hb, hNe⟩ := hFreed
  exact ⟨b, alloc_block_of_some hb, hNe⟩

theorem Freed.release (hFreed : Freed h p) : Freed (Holders.release c n h) p := by
  obtain ⟨b, hb, hNe⟩ := hFreed
  by_cases hCell : h.cell c = some p
  · exact ⟨_, release_block_self hCell hb, Nat.succ_ne_zero _⟩
  · exact ⟨b, (release_block_of_ne hCell).trans hb, hNe⟩

namespace Tidy

theorem freed_release (hTidy : Tidy h) (hCell : h.cell c = some p) :
    Freed (Holders.release c n h) p := by
  obtain ⟨b, hb, -⟩ := hTidy.live c p hCell
  exact ⟨_, release_block_self hCell hb, Nat.succ_ne_zero _⟩

theorem alloc (hTidy : Tidy h) (hNone : h.cell c = none) : Tidy (Holders.alloc c n h) := by
  have hOld : ∀ c' p, h.cell c' = some p → c' ≠ c := by
    intro c' p hCell hEq
    rw [hEq, hNone] at hCell
    cases hCell
  have hLt : ∀ c' p, h.cell c' = some p → p < h.blocks.length := by
    intro c' p hCell
    obtain ⟨b, hb, -⟩ := hTidy.live c' p hCell
    exact (List.getElem?_eq_some_iff.mp hb).1
  refine ⟨fun c' p hCell => ?_, fun c₁ c₂ p h₁ h₂ => ?_, fun p b hb => ?_⟩
  · by_cases hEq : c' = c
    · rw [hEq, alloc_cell_self] at hCell
      cases hCell
      exact ⟨_, alloc_block_new, rfl⟩
    · rw [alloc_cell_of_ne hEq] at hCell
      obtain ⟨b, hb, hZero⟩ := hTidy.live c' p hCell
      exact ⟨b, alloc_block_of_some hb, hZero⟩
  · by_cases hEq₁ : c₁ = c
    · by_cases hEq₂ : c₂ = c
      · rw [hEq₁, hEq₂]
      · rw [hEq₁, alloc_cell_self] at h₁
        rw [alloc_cell_of_ne hEq₂] at h₂
        have := hLt c₂ p h₂
        cases h₁
        omega
    · rw [alloc_cell_of_ne hEq₁] at h₁
      by_cases hEq₂ : c₂ = c
      · rw [hEq₂, alloc_cell_self] at h₂
        have := hLt c₁ p h₁
        cases h₂
        omega
      · rw [alloc_cell_of_ne hEq₂] at h₂
        exact hTidy.inj c₁ c₂ p h₁ h₂
  · by_cases hNew : p < h.blocks.length
    · have hb' : h.blocks[p]? = some b := by
        rw [← hb]
        exact (List.getElem?_append_left hNew).symm
      refine (hTidy.once p b hb').imp_left fun hHeld => ⟨hHeld.1, ?_⟩
      obtain ⟨c', hCell⟩ := hHeld.2
      exact ⟨c', (alloc_cell_of_ne (hOld c' p hCell)).trans hCell⟩
    · have hLe : p < h.blocks.length + 1 := by
        have hLen := (List.getElem?_eq_some_iff.mp hb).1
        simpa [Holders.alloc] using hLen
      have hEq : p = h.blocks.length := by omega
      rw [hEq, alloc_block_new] at hb
      cases hb
      exact .inl ⟨rfl, c, hEq ▸ alloc_cell_self⟩

/-- The wiped length is the length of the block. -/
theorem release (hTidy : Tidy h) (hSize : ∀ p b, h.cell c = some p → h.blocks[p]? = some b →
    b.size = n) : Tidy (Holders.release c n h) := by
  cases hCell : h.cell c with
  | none => rwa [release_of_none hCell]
  | some q =>
    have hOther : ∀ c' p, (Holders.release c n h).cell c' = some p →
        c' ≠ c ∧ h.cell c' = some p ∧ h.cell c ≠ some p := by
      intro c' p hc'
      have hNe : c' ≠ c := by
        rintro rfl
        rw [release_cell_self] at hc'
        cases hc'
      rw [release_cell_of_ne hNe] at hc'
      exact ⟨hNe, hc', fun hSame => hNe (hTidy.inj c' c p hc' hSame)⟩
    refine ⟨fun c' p hc' => ?_, fun c₁ c₂ p h₁ h₂ => ?_, fun p b hb => ?_⟩
    · obtain ⟨-, hOld, hNe⟩ := hOther c' p hc'
      obtain ⟨b, hb, hZero⟩ := hTidy.live c' p hOld
      exact ⟨b, (release_block_of_ne hNe).trans hb, hZero⟩
    · exact hTidy.inj c₁ c₂ p (hOther c₁ p h₁).2.1 (hOther c₂ p h₂).2.1
    · by_cases hEq : h.cell c = some p
      · obtain ⟨b', hb', hZero⟩ := hTidy.live c p hEq
        rw [release_block_self hEq hb'] at hb
        cases hb
        refine .inr ⟨?_, (hSize p b' hEq hb').symm⟩
        show b'.frees + 1 = 1
        rw [hZero]
      · rw [release_block_of_ne hEq] at hb
        refine (hTidy.once p b hb).imp_left fun hHeld => ⟨hHeld.1, ?_⟩
        obtain ⟨c', hc'⟩ := hHeld.2
        refine ⟨c', (release_cell_of_ne ?_).trans hc'⟩
        rintro rfl
        exact hEq hc'

end Tidy

end

end EspHosted.Holders
