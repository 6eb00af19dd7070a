import Mathlib.Algebra.Group.Nat.Defs
import Mathlib.Order.Basic

/-!
# Guarded runs of a transition function

A system is given by a partial transition function `step : σ → α → Option σ`: `none`
means that the action is not enabled. A schedule is a list of actions. `Reaches step G s t`
says that some schedule leads from `s` to `t` and that every action of it satisfies the
guard `G` in the state where it is taken; with the guard `anyStep` this is plain
reachability.

* `Reaches.invariant`: what the first state has and every guarded step preserves holds in
  every state reached;
* `Reaches.simulation`: a run is matched by one of another system when each of its steps is;
* `Reaches.descend`: a state with `P` is reached if until then some step makes a measure smaller;
* `Reaches.of_run`: the executable form, a list of actions run by `runGuarded`.
-/

namespace EspHosted.Machine

variable {σ α : Type*}

/-- The guard that excludes no step. -/
def anyStep (_ : σ) (_ : α) : Prop := True

instance (s : σ) (a : α) : Decidable (anyStep s a) := .isTrue trivial

/-- The states reached from `s` by steps that all satisfy the guard `G`. -/
inductive Reaches (step : σ → α → Option σ) (G : σ → α → Prop) (s : σ) : σ → Prop
  | start : Reaches step G s s
  | next {t u : σ} {a : α} : Reaches step G s t → G t a → step t a = some u →
      Reaches step G s u

/-- Runs a schedule, refusing an action that is not enabled or breaks the guard. -/
def runGuarded (step : σ → α → Option σ) (G : σ → α → Prop) [∀ s a, Decidable (G s a)]
    (s : σ) : List α → Option σ
  | [] => some s
  | a :: as => if G s a then (step s a).bind fun t => runGuarded step G t as else none

/-- Runs a schedule without any guard. -/
def run (step : σ → α → Option σ) (s : σ) : List α → Option σ
  | [] => some s
  | a :: as => (step s a).bind fun t => run step t as

variable {step : σ → α → Option σ} {G H : σ → α → Prop}

theorem Reaches.trans {s t u : σ} (hst : Reaches step G s t) (htu : Reaches step G t u) :
    Reaches step G s u := by
  induction htu with
  | start => exact hst
  | next _ hG hStep ih => exact ih.next hG hStep

theorem Reaches.single {s t : σ} {a : α} (hG : G s a) (hStep : step s a = some t) :
    Reaches step G s t :=
  Reaches.start.next hG hStep

/-- An invariant of the guarded steps holds in every state reached. -/
theorem Reaches.invariant {I : σ → Prop} {s t : σ} (hRun : Reaches step G s t) (h0 : I s)
    (hStep : ∀ u a v, I u → G u a → step u a = some v → I v) : I t := by
  induction hRun with
  | start => exact h0
  | next _ hG hNext ih => exact hStep _ _ _ ih hG hNext

/-- A stronger guard reaches fewer states. -/
theorem Reaches.mono {s t : σ} (hRun : Reaches step G s t) (hGH : ∀ u a, G u a → H u a) :
    Reaches step H s t := by
  induction hRun with
  | start => exact .start
  | next _ hG hNext ih => exact ih.next (hGH _ _ hG) hNext

/-- As long as `P` does not hold, some guarded step makes a measure smaller. -/
theorem Reaches.descend {I P : σ → Prop} (measure : σ → Nat)
    (hStep : ∀ u, I u → ¬ P u →
      ∃ a v, G u a ∧ step u a = some v ∧ I v ∧ measure v < measure u)
    {s : σ} (h0 : I s) : ∃ t, Reaches step G s t ∧ I t ∧ P t := by
  induction hm : measure s using Nat.strongRecOn generalizing s with
  | ind m ih =>
    by_cases hP : P s
    · exact ⟨s, .start, h0, hP⟩
    · obtain ⟨a, t, hG, hNext, hI, hLess⟩ := hStep s h0 hP
      obtain ⟨u, hRun, hEnd⟩ := ih (measure t) (hm ▸ hLess) hI rfl
      exact ⟨u, (Reaches.single hG hNext).trans hRun, hEnd⟩

/-- A guarded run is matched step by step, or with no step at all, by one of another system. -/
theorem Reaches.simulation {τ β : Type*} {step' : τ → β → Option τ} {G' : τ → β → Prop}
    {R : σ → τ → Prop} {s u : σ} {t : τ} (hRun : Reaches step G s u) (h0 : R s t)
    (hStep : ∀ v a w x, R v x → Reaches step' G' t x → G v a → step v a = some w →
      ∃ y, R w y ∧ (y = x ∨ ∃ b, G' x b ∧ step' x b = some y)) :
    ∃ x, R u x ∧ Reaches step' G' t x := by
  induction hRun with
  | start => exact ⟨t, h0, .start⟩
  | next _ hG hNext ih =>
    obtain ⟨x, hRel, hReached⟩ := ih
    obtain ⟨y, hRel', hSame | ⟨b, hG', hNext'⟩⟩ := hStep _ _ _ _ hRel hReached hG hNext
    · exact ⟨y, hRel', hSame ▸ hReached⟩
    · exact ⟨y, hRel', hReached.next hG' hNext'⟩

theorem Reaches.unguarded {s t : σ} (hRun : Reaches step G s t) :
    Reaches step anyStep s t :=
  hRun.mono fun _ _ _ => trivial

section Schedules

variable [∀ s a, Decidable (G s a)]

theorem Reaches.of_run {s t : σ} {as : List α} (h : runGuarded step G s as = some t) :
    Reaches step G s t := by
  induction as generalizing s with
  | nil =>
    cases h
    exact .start
  | cons a as ih =>
    simp only [runGuarded] at h
    split at h
    · rename_i hG
      obtain ⟨u, hu, hRest⟩ := Option.bind_eq_some_iff.mp h
      exact (Reaches.single hG hu).trans (ih hRest)
    · cases h

theorem run_eq_runGuarded (s : σ) (as : List α) :
    run step s as = runGuarded step anyStep s as := by
  induction as generalizing s with
  | nil => rfl
  | cons a as ih => simp [run, runGuarded, anyStep, ih]

theorem Reaches.of_plain_run {s t : σ} {as : List α} (h : run step s as = some t) :
    Reaches step anyStep s t :=
  .of_run (run_eq_runGuarded s as ▸ h)

end Schedules

end EspHosted.Machine
