import Mathlib.Data.List.Induction
import Mathlib.Tactic.Common

/-!
# Traces

A trace is a list of observations, oldest first. Some observations start something and some stop
it; `latched start stop l` says that the last of them is a start.

* `Throughout P l`: every observation satisfies `P` with its past; a trace that grows by one
  observation has to satisfy it there (`throughout_append`);
* `Separated start stop l`: between two starts there is a stop. This holds when every start finds
  the trace not latched (`separated_iff`).
-/

namespace EspHosted.Trace

variable {α : Type*} {P : List α → α → Prop} {start stop : α → Bool} {l : List α} {x : α}

/-- Every observation satisfies `P` with what came before it. -/
def Throughout (P : List α → α → Prop) (l : List α) : Prop :=
  ∀ past x rest, l = past ++ x :: rest → P past x

theorem throughout_nil : Throughout P ([] : List α) := by
  intro past x rest hEq
  cases past <;> cases hEq

theorem throughout_append : Throughout P (l ++ [x]) ↔ Throughout P l ∧ P l x := by
  constructor
  · intro h
    refine ⟨fun past y rest hEq => h past y (rest ++ [x]) ?_, h l x [] rfl⟩
    rw [hEq, List.append_assoc, List.cons_append]
  · rintro ⟨hOld, hNew⟩ past y rest hEq
    rcases List.eq_nil_or_concat rest with rfl | ⟨init, z, rfl⟩
    · obtain ⟨rfl, hLast⟩ := List.append_inj' hEq rfl
      cases hLast
      exact hNew
    · refine hOld past y init ?_
      rw [List.concat_eq_append, ← List.cons_append, ← List.append_assoc] at hEq
      exact (List.append_inj' hEq rfl).1

/-- The last of the starts and stops is a start. -/
def latched (start stop : α → Bool) (l : List α) : Bool :=
  l.foldl (fun on x => if start x then true else if stop x then false else on) false

@[simp]
theorem latched_append : latched start stop (l ++ [x]) =
    if start x then true else if stop x then false else latched start stop l := by
  simp only [latched, List.foldl_append, List.foldl_cons, List.foldl_nil]

/-- Some start has no stop behind it. -/
theorem latched_iff : latched start stop l = true ↔
    ∃ past x rest, l = past ++ x :: rest ∧ start x = true ∧ ∀ y ∈ rest, stop y = false := by
  induction l using List.reverseRecOn with
  | nil =>
    refine iff_of_false Bool.false_ne_true ?_
    rintro ⟨past, x, rest, hEq, -⟩
    cases past <;> cases hEq
  | append_singleton l x ih =>
    rw [latched_append]
    constructor
    · intro h
      split at h
      · rename_i hStart
        exact ⟨l, x, [], rfl, hStart, nofun⟩
      · split at h
        · cases h
        · rename_i hStop
          obtain ⟨past, y, rest, rfl, hStart, hRest⟩ := ih.mp h
          refine ⟨past, y, rest ++ [x], List.append_assoc .., hStart, ?_⟩
          intro z hMem
          rcases List.mem_append.mp hMem with hMem | hMem
          · exact hRest z hMem
          · rw [List.mem_singleton.mp hMem]
            exact (Bool.not_eq_true _).mp hStop
    · rintro ⟨past, y, rest, hEq, hStart, hRest⟩
      rcases List.eq_nil_or_concat rest with rfl | ⟨init, z, rfl⟩
      · obtain ⟨-, hLast⟩ := List.append_inj' hEq rfl
        cases hLast
        rw [if_pos hStart]
      · rw [List.concat_eq_append, ← List.cons_append, ← List.append_assoc] at hEq
        obtain ⟨rfl, hLast⟩ := List.append_inj' hEq rfl
        cases hLast
        have hStop : stop x = false := hRest x (by simp)
        have hOld := ih.mpr ⟨past, y, init, rfl, hStart, fun w hMem => hRest w (by simp [hMem])⟩
        rw [hOld, hStop]
        simp

/-- With fewer stops more remains latched. -/
theorem latched_mono {stop' : α → Bool} (hStop : ∀ x, stop x = true → stop' x = true)
    (h : latched start stop' l = true) : latched start stop l = true := by
  obtain ⟨past, x, rest, hEq, hStart, hRest⟩ := latched_iff.mp h
  refine latched_iff.mpr ⟨past, x, rest, hEq, hStart, fun y hMem => ?_⟩
  by_contra hStopped
  rw [Bool.not_eq_false] at hStopped
  exact absurd ((hRest y hMem).symm.trans (hStop y hStopped)) Bool.false_ne_true

/-- Between two starts there is a stop. -/
def Separated (start stop : α → Bool) (l : List α) : Prop :=
  ∀ past x mid y rest, l = past ++ x :: (mid ++ y :: rest) → start x = true → start y = true →
    ∃ z ∈ mid, stop z = true

/-- No start finds the trace latched. -/
theorem separated_iff : Separated start stop l ↔
    Throughout (fun past x => start x = true → latched start stop past = false) l := by
  constructor
  · intro h past y rest hEq hStart
    by_contra hLatched
    rw [Bool.not_eq_false] at hLatched
    obtain ⟨before, x, mid, rfl, hFirst, hMid⟩ := latched_iff.mp hLatched
    obtain ⟨z, hMem, hStop⟩ := h before x mid y rest (by rw [hEq]; simp) hFirst hStart
    rw [hMid z hMem] at hStop
    cases hStop
  · intro h past x mid y rest hEq hFirst hStart
    have hOpen := h (past ++ x :: mid) y rest (by rw [hEq]; simp) hStart
    by_contra hNone
    have hLatched : latched start stop (past ++ x :: mid) = true := by
      refine latched_iff.mpr ⟨past, x, mid, rfl, hFirst, fun z hMem => ?_⟩
      by_contra hStop
      exact hNone ⟨z, hMem, by simpa using hStop⟩
    rw [hLatched] at hOpen
    cases hOpen

end EspHosted.Trace
