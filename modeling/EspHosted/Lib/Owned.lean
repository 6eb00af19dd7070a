import Mathlib.Data.List.Basic

/-!
# Blocks owned by a message under construction

A program allocates blocks of memory one by one. Each is held by a local variable, or by a field of
the message, or by an element of a list in the message, together with what the element points to.
A list has a count of its own, and whoever frees the message follows only the elements that are
counted.

* `perm_run`: the blocks held are those that were allocated;
* `perm_reached`: they are the blocks of the locals, those reached from the message, and those
  hidden behind the count;
* `hidden_run_iff`: when nothing is hidden.
-/

namespace EspHosted.Owned

variable {β : Type}

/-- One step of such a program. `part` is a block held by the newest element, and `call` allocates
nothing. -/
inductive Op (β : Type)
  | call
  | temp (block : β)
  | field (block : β)
  | element (block : β)
  | part (block : β)
  | raise
  | setCount (n : Nat)

def Op.blocks : Op β → List β
  | .temp b | .field b | .element b | .part b => [b]
  | .call | .raise | .setCount _ => []

def Op.isElement : Op β → Bool
  | .element _ => true
  | _ => false

/-- What is held; the elements are newest first. -/
structure Built (β : Type) where
  temps : List β := []
  fields : List β := []
  elements : List (List β) := []
  counted : Nat := 0

namespace Built

def apply (s : Built β) : Op β → Built β
  | .call => s
  | .temp b => { s with temps := b :: s.temps }
  | .field b => { s with fields := b :: s.fields }
  | .element b => { s with elements := [b] :: s.elements }
  | .part b =>
    match s.elements with
    | [] => { s with fields := b :: s.fields }
    | e :: es => { s with elements := (b :: e) :: es }
  | .raise => { s with counted := s.counted + 1 }
  | .setCount n => { s with counted := n }

def run (s : Built β) (ops : List (Op β)) : Built β := ops.foldl apply s

def held (s : Built β) : List β := s.temps ++ s.fields ++ s.elements.flatten

/-- The elements that are not counted. -/
def hidden (s : Built β) : List β :=
  (s.elements.take (s.elements.length - s.counted)).flatten

/-- What is found from the message. -/
def reached (s : Built β) : List β :=
  s.fields ++ (s.elements.drop (s.elements.length - s.counted)).flatten

/-- Every element is counted. -/
def Counted (s : Built β) : Prop := s.elements.length ≤ s.counted

instance (s : Built β) : Decidable s.Counted := inferInstanceAs (Decidable (_ ≤ _))

variable {s : Built β}

theorem perm_apply (s : Built β) (op : Op β) : (s.apply op).held.Perm (op.blocks ++ s.held) := by
  cases op with
  | call => exact .refl _
  | temp b => exact .refl _
  | field b =>
    unfold held
    exact List.Perm.append_right _ List.perm_middle
  | element b =>
    unfold held
    exact List.perm_middle
  | part b =>
    cases hElements : s.elements with
    | nil =>
      simp only [apply, held, hElements]
      exact List.Perm.append_right _ List.perm_middle
    | cons e es =>
      simp only [apply, held, hElements]
      exact List.perm_middle
  | raise => exact .refl _
  | setCount n => exact .refl _

theorem perm_run (s : Built β) (ops : List (Op β)) :
    (s.run ops).held.Perm (ops.flatMap Op.blocks ++ s.held) := by
  induction ops generalizing s with
  | nil => exact .refl _
  | cons op ops ih =>
    have hFirst := (perm_apply s op).append_left (ops.flatMap Op.blocks)
    rw [List.flatMap_cons, List.append_assoc]
    refine (ih (s.apply op)).trans (hFirst.trans ?_)
    rw [← List.append_assoc, ← List.append_assoc]
    exact List.perm_append_comm.append_right _

theorem perm_reached (s : Built β) : s.held.Perm (s.temps ++ s.reached ++ s.hidden) := by
  have hSplit : s.elements.flatten.Perm
      ((s.elements.drop (s.elements.length - s.counted)).flatten ++
        (s.elements.take (s.elements.length - s.counted)).flatten) := by
    rw [← List.flatten_append]
    refine List.Perm.flatten ?_
    conv_lhs => rw [← List.take_append_drop (s.elements.length - s.counted) s.elements]
    exact List.perm_append_comm
  unfold held reached hidden
  simp only [List.append_assoc]
  exact (hSplit.append_left _).append_left _

/-- An element is at least its own block. -/
def Solid (s : Built β) : Prop := ∀ e ∈ s.elements, e ≠ []

theorem Solid.apply (h : s.Solid) (op : Op β) : (s.apply op).Solid := by
  cases op with
  | element b =>
    intro e he
    rcases List.mem_cons.mp he with rfl | hOld
    · exact List.cons_ne_nil _ _
    · exact h e hOld
  | part b =>
    unfold Solid at h ⊢
    cases hElements : s.elements with
    | nil =>
      simp only [Built.apply, hElements]
      exact fun _ he => nomatch he
    | cons e es =>
      simp only [hElements, List.forall_mem_cons] at h
      simp only [Built.apply, hElements, List.forall_mem_cons]
      exact ⟨List.cons_ne_nil b e, h.2⟩
  | call => exact h
  | temp b => exact h
  | field b => exact h
  | raise => exact h
  | setCount n => exact h

theorem Solid.run (h : s.Solid) (ops : List (Op β)) : (s.run ops).Solid := by
  induction ops generalizing s with
  | nil => exact h
  | cons op ops ih => exact ih (h.apply op)

/-- Without elements there is no list. -/
theorem elements_run {ops : List (Op β)} (hNone : s.elements = [])
    (h : ∀ op ∈ ops, op.isElement = false) : (s.run ops).elements = [] := by
  induction ops generalizing s with
  | nil => exact hNone
  | cons op ops ih =>
    rw [List.forall_mem_cons] at h
    refine ih ?_ h.2
    cases op with
    | element b => cases h.1
    | part b => simp only [Built.apply, hNone]
    | call => exact hNone
    | temp b => exact hNone
    | field b => exact hNone
    | raise => exact hNone
    | setCount n => exact hNone

theorem hidden_eq_nil_iff (h : s.Solid) : s.hidden = [] ↔ s.Counted := by
  unfold hidden Counted
  rw [List.flatten_eq_nil_iff]
  constructor
  · intro hEmpty
    by_contra hLess
    obtain ⟨e, es, hElements⟩ : ∃ e es, s.elements = e :: es :=
      List.exists_cons_of_length_pos (by omega)
    obtain ⟨k, hk⟩ : ∃ k, s.elements.length - s.counted = k + 1 :=
      ⟨s.elements.length - s.counted - 1, by omega⟩
    rw [hk, hElements, List.take_succ_cons] at hEmpty
    exact h e (by rw [hElements]; exact List.mem_cons_self) (hEmpty e List.mem_cons_self)
  · intro hLe
    rw [Nat.sub_eq_zero_of_le hLe, List.take_zero]
    intro e he
    cases he

theorem hidden_run_iff (ops : List (Op β)) :
    (({} : Built β).run ops).hidden = [] ↔ (({} : Built β).run ops).Counted := by
  have hEmpty : ({} : Built β).Solid := by
    intro e he
    cases he
  exact hidden_eq_nil_iff (hEmpty.run ops)

end Built

end EspHosted.Owned
