import EspHosted.Lib.Fragments
import Mathlib.Data.List.Forall2

/-!
# Lost pieces

Messages are sequences of elements of which all but the last one are marked "more follows".
Some elements get lost, and a receiver puts what arrives together in groups, each up to the
next element without the mark.

* `groups_good_iff`: every group is a message if and only if no message that has lost
  something is followed by an element without the mark, its own last one included;
* `groups_good_iff_numbered`: the same for messages whose elements carry their number.
-/

namespace EspHosted.Loss

open Fragments

variable {α : Type*} (more : α → Bool)

/-- The groups of a receiver that has `acc` already. -/
def groups (acc l : List α) : List (List α) := collect acc (l.map fun a => ([a], more a))

/-- All elements but the last one are marked. -/
structure Marked (m : List α) : Prop where
  split : ∃ init last, m = init ++ [last] ∧ (∀ a ∈ init, more a = true) ∧ more last = false

/-- Of every message nothing arrives, or all of it and it is valid, or neither its own end nor
one of a later message. -/
def Clean (Valid : List α → Prop) : List (List α) → List (List α) → Prop
  | r :: rs, m :: ms =>
    (r = [] ∨ (r = m ∧ Valid m) ∨ ∀ a ∈ (r :: rs).flatten, more a = true) ∧ Clean Valid rs ms
  | _, _ => True

variable {more}

theorem groups_marked {acc l : List α} (h : ∀ a ∈ l, more a = true) (rest : List α) :
    groups more acc (l ++ rest) = groups more (acc ++ l) rest := by
  induction l generalizing acc with
  | nil => simp
  | cons a l ih =>
    have hRest : groups more (acc ++ [a]) (l ++ rest) = groups more (acc ++ [a] ++ l) rest :=
      ih fun b hb => h b (by simp [hb])
    simpa [groups, collect, h a (by simp)] using hRest

theorem groups_last {acc : List α} {a : α} (h : more a = false) (rest : List α) :
    groups more acc (a :: rest) = (acc ++ [a]) :: groups more [] rest := by
  simp [groups, collect, h]

@[simp] theorem groups_nil (acc : List α) : groups more acc [] = [] := rfl

theorem groups_flatten_nil (acc : List α) (rs : List (List α)) :
    groups more acc ([] :: rs).flatten = groups more acc rs.flatten := rfl

/-- An element without the mark ends a group. -/
theorem mem_groups_of_end (acc : List α) {l : List α} {a : α} (hMem : a ∈ l)
    (hEnd : more a = false) : ∃ g ∈ groups more acc l, a ∈ g := by
  induction l generalizing acc with
  | nil => cases hMem
  | cons b l ih =>
    cases hMore : more b with
    | true =>
      have hLater : a ∈ l := (List.mem_cons.mp hMem).resolve_left fun hEq => by
        rw [hEq, hMore] at hEnd
        cases hEnd
      have hNext : groups more acc ([b] ++ l) = groups more (acc ++ [b]) l :=
        groups_marked (fun c hc => List.mem_singleton.mp hc ▸ hMore) l
      obtain ⟨g, hg, ha⟩ := ih (acc ++ [b]) hLater
      exact ⟨g, hNext ▸ hg, ha⟩
    | false =>
      rw [groups_last hMore]
      rcases List.mem_cons.mp hMem with rfl | hLater
      · exact ⟨_, List.mem_cons_self, List.mem_append_right acc (List.mem_singleton_self a)⟩
      · obtain ⟨g, hg, ha⟩ := ih [] hLater
        exact ⟨g, List.mem_cons_of_mem _ hg, ha⟩

/-- What arrives of a marked message: marked elements only, or some of them and the end. -/
theorem Marked.sublist {r m : List α} (hMarked : Marked more m) (h : r.Sublist m) :
    (∀ a ∈ r, more a = true) ∨
      ∃ init last, r = init ++ [last] ∧ (∀ a ∈ init, more a = true) ∧ more last = false := by
  obtain ⟨init, last, rfl, hInit, hLast⟩ := hMarked.split
  obtain ⟨r₁, r₂, rfl, h₁, h₂⟩ := List.sublist_append_iff.mp h
  have hMore : ∀ a ∈ r₁, more a = true := fun a ha => hInit a (h₁.subset ha)
  rcases List.sublist_singleton.mp h₂ with rfl | rfl
  · exact Or.inl (by simpa using hMore)
  · exact Or.inr ⟨r₁, last, rfl, hMore, hLast⟩

theorem Marked.not_all {m : List α} (hMarked : Marked more m) : ¬ ∀ a ∈ m, more a = true := by
  obtain ⟨init, last, rfl, -, hLast⟩ := hMarked.split
  intro h
  have hMore := h last (by simp)
  rw [hLast] at hMore
  cases hMore

/-- When every group of what arrives is good. `Good` recognizes the messages: a group with an
element of a message is good just when it is the message, and the message is valid. -/
theorem groups_good_iff {Good Valid : List α → Prop} {received sent : List (List α)}
    (hLoss : List.Forall₂ List.Sublist received sent) (hMarked : ∀ m ∈ sent, Marked more m)
    (hDisjoint : sent.Pairwise List.Disjoint)
    (hGood : ∀ m ∈ sent, ∀ g, (∃ a ∈ g, a ∈ m) → (Good g ↔ g = m ∧ Valid m))
    {acc : List α} (hAcc : ∀ m ∈ sent, List.Disjoint acc m) :
    (∀ g ∈ groups more acc received.flatten, Good g) ↔
      (acc = [] ∨ ∀ a ∈ received.flatten, more a = true) ∧ Clean more Valid received sent := by
  induction hLoss generalizing acc with
  | nil => simp [Clean]
  | @cons r m rs ms hSub hRest ih =>
    obtain ⟨hDisj, hDisjoint⟩ := List.pairwise_cons.mp hDisjoint
    have hTail := @ih (fun n hn => hMarked n (by simp [hn])) hDisjoint
      fun n hn => hGood n (by simp [hn])
    rcases (hMarked m (by simp)).sublist hSub with hMore | ⟨init, last, rfl, hInit, hLast⟩
    · by_cases hNil : r = []
      · subst hNil
        rw [groups_flatten_nil, hTail fun n hn => hAcc n (by simp [hn])]
        simp [Clean]
      · -- the end of the message is lost, and `r` waits for the next one
        have hForeign : ∀ n ∈ ms, List.Disjoint (acc ++ r) n := by
          intro n hn
          refine List.disjoint_append_left.mpr ⟨hAcc n (by simp [hn]), ?_⟩
          intro a ha
          exact hDisj n hn (hSub.subset ha)
        have hPart : r ≠ m := by
          rintro rfl
          exact (hMarked r (by simp)).not_all hMore
        have hAll : (∀ a ∈ (r :: rs).flatten, more a = true) ↔
            ∀ a ∈ rs.flatten, more a = true := by
          simp only [List.flatten_cons, List.mem_append]
          exact ⟨fun h a ha => h a (Or.inr ha), fun h a ha => ha.elim (hMore a) (h a)⟩
        rw [List.flatten_cons, groups_marked hMore, hTail hForeign, ← List.flatten_cons, hAll]
        simp only [Clean, hAll, List.append_eq_nil_iff, hNil, hPart, and_false, false_and, false_or]
        constructor
        · rintro ⟨hEnd, hClean⟩
          exact ⟨Or.inr hEnd, hEnd, hClean⟩
        · rintro ⟨-, hEnd, hClean⟩
          exact ⟨hEnd, hClean⟩
    · have hFlat : (((init ++ [last]) :: rs).flatten) = init ++ (last :: rs.flatten) := by simp
      have hEnd : ¬ ∀ a ∈ ((init ++ [last]) :: rs).flatten, more a = true := by
        intro h
        have hMore := h last (by simp)
        rw [hLast] at hMore
        cases hMore
      have hHead : Good (acc ++ (init ++ [last])) ↔
          acc = [] ∧ init ++ [last] = m ∧ Valid m := by
        rw [hGood m (by simp) _ ⟨last, by simp, hSub.subset (by simp)⟩]
        constructor
        · rintro ⟨hEq, hValid⟩
          have hNil : acc = [] := by
            apply List.eq_nil_iff_forall_not_mem.mpr
            intro a ha
            exact hAcc m (by simp) ha (by rw [← hEq]; simp [ha])
          subst hNil
          exact ⟨rfl, hEq, hValid⟩
        · rintro ⟨rfl, hEq, hValid⟩
          exact ⟨hEq, hValid⟩
      rw [hFlat, groups_marked hInit, groups_last hLast, ← hFlat, List.append_assoc]
      simp only [List.mem_cons, forall_eq_or_imp, hHead, hTail fun n _ => List.disjoint_nil_left n,
        Clean, hEnd, true_or, true_and, or_false, List.append_eq_nil_iff, reduceCtorEq, and_false,
        false_or]
      exact ⟨fun h => ⟨h.1.1, h.1.2, h.2⟩, fun h => ⟨⟨h.1, h.2.1⟩, h.2.2⟩⟩

/-! ## The parts of the messages -/

/-- The parts of the messages in a stream that has lost elements, the messages being numbered
from `k` on. -/
theorem split (number : α → Nat) {k : Nat} {sent : List (List α)} {l : List α}
    (hNumber : ∀ i (h : i < sent.length), ∀ a ∈ sent[i], number a = k + i)
    (h : l.Sublist sent.flatten) :
    ∃ received, List.Forall₂ List.Sublist received sent ∧ received.flatten = l ∧
      received = (List.range sent.length).map fun i => l.filter (number · = k + i) := by
  induction sent generalizing k l with
  | nil => exact ⟨[], .nil, (List.sublist_nil.mp h).symm, rfl⟩
  | cons m ms ih =>
    obtain ⟨l₁, l₂, rfl, h₁, h₂⟩ := List.sublist_append_iff.mp h
    have hFirst : ∀ a ∈ l₁, number a = k := fun a ha =>
      hNumber 0 (by simp) a (h₁.subset ha)
    have hNext : ∀ i (hi : i < ms.length), ∀ a ∈ ms[i], number a = k + 1 + i := by
      intro i hi a ha
      have hNum := hNumber (i + 1) (by simpa using hi) a (by simpa using ha)
      omega
    obtain ⟨received, hLoss, rfl, hParts⟩ := ih hNext h₂
    have hLater : ∀ a ∈ received.flatten, k < number a := by
      intro a ha
      obtain ⟨m', hm', ha'⟩ := List.mem_flatten.mp (h₂.subset ha)
      obtain ⟨i, hi, rfl⟩ := List.mem_iff_getElem.mp hm'
      have hNum := hNext i hi a ha'
      omega
    refine ⟨l₁ :: received, .cons h₁ hLoss, rfl, ?_⟩
    have hHead : (l₁ ++ received.flatten).filter (number · = k + 0) = l₁ := by
      rw [List.filter_append, List.filter_eq_self.mpr (by simpa using hFirst),
        List.filter_eq_nil_iff.mpr, List.append_nil]
      intro a ha
      have hLt := hLater a ha
      simp only [decide_eq_true_eq]
      omega
    have hRest : ∀ i, (l₁ ++ received.flatten).filter (number · = k + (i + 1)) =
        received.flatten.filter (number · = k + 1 + i) := by
      intro i
      rw [List.filter_append, List.filter_eq_nil_iff.mpr, List.nil_append]
      · apply List.filter_congr
        intro a _
        simp only [decide_eq_decide]
        omega
      · intro a ha
        have hEq := hFirst a ha
        simp only [decide_eq_true_eq]
        omega
    rw [List.length_cons, List.range_succ_eq_map, List.map_cons, hHead, List.map_map]
    congr 1
    rw [hParts]
    apply List.map_congr_left
    intro i _
    rw [← hParts]
    exact (hRest i).symm

/-- The part of message `i` in what arrives: nothing, or all of it and it is valid, or neither
its own end nor one of a later message arrives. -/
def Unbroken (more : α → Bool) (Valid : List α → Prop) (number : α → Nat) (l : List α) (i : Nat)
    (m : List α) : Prop :=
  l.filter (number · = i) = [] ∨ (l.filter (number · = i) = m ∧ Valid m) ∨
    ∀ a ∈ l, i ≤ number a → more a = true

theorem clean_iff {Valid : List α → Prop} (number : α → Nat) {k : Nat} {sent : List (List α)}
    {l : List α} (hNumber : ∀ i (h : i < sent.length), ∀ a ∈ sent[i], number a = k + i)
    {received : List (List α)} (hLoss : List.Forall₂ List.Sublist received sent)
    (hParts : received = (List.range sent.length).map fun i => l.filter (number · = k + i))
    (hRest : ∀ a, a ∈ received.flatten ↔ a ∈ l ∧ k ≤ number a) :
    Clean more Valid received sent ↔
      ∀ i (h : i < sent.length), Unbroken more Valid number l (k + i) sent[i] := by
  induction hLoss generalizing k with
  | nil => simp [Clean]
  | @cons r m rs ms hSub hRestLoss ih =>
    rw [List.length_cons, List.range_succ_eq_map, List.map_cons, List.map_map] at hParts
    obtain ⟨rfl, hTail⟩ := List.cons_eq_cons.mp hParts
    have hNext : ∀ i (hi : i < ms.length), ∀ a ∈ ms[i], number a = k + 1 + i := by
      intro i hi a ha
      have hNum := hNumber (i + 1) (by simpa using hi) a (by simpa using ha)
      omega
    have hShift : rs = (List.range ms.length).map fun i => l.filter (number · = k + 1 + i) := by
      rw [hTail]
      apply List.map_congr_left
      intro i _
      apply List.filter_congr
      intro a _
      simp only [decide_eq_decide]
      omega
    have hLater : ∀ a, a ∈ rs.flatten ↔ a ∈ l ∧ k + 1 ≤ number a := by
      intro a
      constructor
      · intro ha
        obtain ⟨hMem, -⟩ := (hRest a).mp (by simp [ha])
        rw [hShift] at ha
        obtain ⟨part, hPart, ha⟩ := List.mem_flatten.mp ha
        obtain ⟨i, -, rfl⟩ := List.mem_map.mp hPart
        have hNum := (List.mem_filter.mp ha).2
        simp only [decide_eq_true_eq] at hNum
        exact ⟨hMem, by omega⟩
      · rintro ⟨hMem, hLt⟩
        have ha := (hRest a).mpr ⟨hMem, by omega⟩
        rw [List.flatten_cons, List.mem_append] at ha
        refine ha.resolve_left fun ha => ?_
        have hNum := (List.mem_filter.mp ha).2
        simp only [decide_eq_true_eq] at hNum
        omega
    have hHead : (∀ a ∈ (l.filter (number · = k + 0) :: rs).flatten, more a = true) ↔
        ∀ a ∈ l, k ≤ number a → more a = true := by
      simp only [hRest, and_imp]
    rw [Clean, ih hNext hShift hLater, hHead]
    constructor
    · rintro ⟨hFirst, hAll⟩ i hi
      cases i with
      | zero => exact hFirst
      | succ i =>
        have h := hAll i (by simpa using hi)
        rwa [show k + 1 + i = k + (i + 1) by omega] at h
    · intro hAll
      refine ⟨hAll 0 (by simp), fun i hi => ?_⟩
      have h := hAll (i + 1) (by simpa using hi)
      rwa [show k + (i + 1) = k + 1 + i by omega] at h

/-- For numbered messages: every group of what arrives is good if and only if all messages are
unbroken. -/
theorem groups_good_iff_numbered {Good Valid : List α → Prop} (number : α → Nat)
    {sent : List (List α)} (hNumber : ∀ i (h : i < sent.length), ∀ a ∈ sent[i], number a = i)
    (hMarked : ∀ m ∈ sent, Marked more m)
    (hGood : ∀ m ∈ sent, ∀ g, (∃ a ∈ g, a ∈ m) → (Good g ↔ g = m ∧ Valid m))
    {l : List α} (hLoss : l.Sublist sent.flatten) :
    (∀ g ∈ groups more [] l, Good g) ↔
      ∀ i (h : i < sent.length), Unbroken more Valid number l i sent[i] := by
  have hFrom : ∀ i (h : i < sent.length), ∀ a ∈ sent[i], number a = 0 + i := by
    simpa using hNumber
  have hDisjoint : sent.Pairwise List.Disjoint := by
    apply List.pairwise_iff_getElem.mpr
    intro i j hi hj hLt a ha hb
    have hEq := (hNumber i hi a ha).symm.trans (hNumber j hj a hb)
    omega
  obtain ⟨received, hParts, rfl, hEq⟩ := split number hFrom hLoss
  rw [groups_good_iff hParts hMarked hDisjoint hGood fun m _ => List.disjoint_nil_left m,
    clean_iff number hFrom hParts hEq (by simp)]
  simp only [true_or, true_and, Nat.zero_add]

end EspHosted.Loss
