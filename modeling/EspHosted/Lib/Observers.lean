import Mathlib.Data.List.Nodup

/-!
# Observers and what they are told

Observers are registered and unregistered, and things are posted. A history lists, newest first,
what has happened: who came and went, what was posted, who was called for it and with what, and
when a post was done.

`Contract` says that whoever is called is registered, is concerned, gets the right arguments and
gets them once; and that when a post is done, everyone who was registered for it when it was
posted, and still is, has been called.

* `mem_live`, `mem_liveAt`: whoever is registered came at some time;
* `decidableContract`: whether a history keeps the contract can be computed.
-/

namespace EspHosted.Observers

variable {ρ π α : Type*}

inductive Event (ρ π α : Type*)
  | registered (r : ρ)
  | unregistered (r : ρ)
  | posted (p : π)
  | called (p : π) (r : ρ) (args : α)
  | done (p : π)
  deriving DecidableEq

/-- Which observers a post concerns, and what it has to tell them. -/
structure Subject (ρ π α : Type*) where
  Concerns : π → ρ → Prop
  args : π → ρ → α

def Called (p : π) (r : ρ) (log : List (Event ρ π α)) : Prop := ∃ args, .called p r args ∈ log

section Registered

variable [DecidableEq ρ]

/-- Who is registered after a history, newest first. -/
def live : List (Event ρ π α) → List ρ
  | [] => []
  | .registered r :: log => r :: live log
  | .unregistered r :: log => (live log).erase r
  | .posted _ :: log | .called _ _ _ :: log | .done _ :: log => live log

variable [DecidableEq π]

/-- Who was registered when `p` was posted. -/
def liveAt (p : π) : List (Event ρ π α) → List ρ
  | [] => []
  | .posted q :: log => if q = p then live log else liveAt p log
  | .registered _ :: log | .unregistered _ :: log | .called _ _ _ :: log | .done _ :: log =>
    liveAt p log

def Contract (S : Subject ρ π α) : List (Event ρ π α) → Prop
  | [] => True
  | .called p r args :: log =>
    (r ∈ live log ∧ S.Concerns p r ∧ args = S.args p r ∧ .posted p ∈ log ∧ .done p ∉ log ∧
      ¬ Called p r log) ∧ Contract S log
  | .done p :: log =>
    (∀ r ∈ liveAt p log, r ∈ live log → S.Concerns p r → Called p r log) ∧ Contract S log
  | .registered _ :: log | .unregistered _ :: log | .posted _ :: log => Contract S log

end Registered

/-! ## Calls -/

section Called

variable {p q : π} {r r' : ρ} {args : α} {log : List (Event ρ π α)}

@[simp] theorem called_registered : Called p r (.registered r' :: log) ↔ Called p r log := by
  simp [Called]

@[simp] theorem called_unregistered : Called p r (.unregistered r' :: log) ↔ Called p r log := by
  simp [Called]

@[simp] theorem called_posted : Called p r (.posted q :: log) ↔ Called p r log := by
  simp [Called]

@[simp] theorem called_done : Called p r (.done q :: log) ↔ Called p r log := by
  simp [Called]

@[simp] theorem called_called :
    Called p r (.called q r' args :: log) ↔ (p = q ∧ r = r') ∨ Called p r log := by
  simp only [Called, List.mem_cons, Event.called.injEq]
  constructor
  · rintro ⟨args', ⟨hp, hr, -⟩ | hMem⟩
    · exact .inl ⟨hp, hr⟩
    · exact .inr ⟨args', hMem⟩
  · rintro (⟨hp, hr⟩ | ⟨args', hMem⟩)
    · exact ⟨args, .inl ⟨hp, hr, rfl⟩⟩
    · exact ⟨args', .inr hMem⟩

theorem not_called_nil : ¬ Called p r ([] : List (Event ρ π α)) := by
  rintro ⟨_, h⟩
  cases h

instance decidableCalled [DecidableEq ρ] [DecidableEq π] (p : π) (r : ρ) :
    ∀ log : List (Event ρ π α), Decidable (Called p r log)
  | [] => .isFalse not_called_nil
  | .registered _ :: log => @decidable_of_iff' _ _ called_registered (decidableCalled p r log)
  | .unregistered _ :: log => @decidable_of_iff' _ _ called_unregistered (decidableCalled p r log)
  | .posted _ :: log => @decidable_of_iff' _ _ called_posted (decidableCalled p r log)
  | .done _ :: log => @decidable_of_iff' _ _ called_done (decidableCalled p r log)
  | .called _ _ _ :: log =>
    have := decidableCalled p r log
    decidable_of_iff' _ called_called

end Called

/-! ## Those who are registered -/

section Registered

variable [DecidableEq ρ] {p : π} {r : ρ} {log : List (Event ρ π α)}

theorem mem_live (h : r ∈ live log) : .registered r ∈ log := by
  induction log with
  | nil => cases h
  | cons e log ih =>
    cases e with
    | registered r' =>
      rcases List.mem_cons.mp h with rfl | hLive
      · exact List.mem_cons_self
      · exact List.mem_cons_of_mem _ (ih hLive)
    | unregistered r' => exact List.mem_cons_of_mem _ (ih (List.mem_of_mem_erase h))
    | posted | called | done => exact List.mem_cons_of_mem _ (ih h)

variable [DecidableEq π]

theorem mem_liveAt (h : r ∈ liveAt p log) : .registered r ∈ log := by
  induction log with
  | nil => cases h
  | cons e log ih =>
    cases e with
    | posted q =>
      rw [liveAt] at h
      split at h
      · exact List.mem_cons_of_mem _ (mem_live h)
      · exact List.mem_cons_of_mem _ (ih h)
    | registered | unregistered | called | done => exact List.mem_cons_of_mem _ (ih h)

instance decidableContract [DecidableEq α] (S : Subject ρ π α)
    [∀ p r, Decidable (S.Concerns p r)] :
    ∀ log : List (Event ρ π α), Decidable (Contract S log)
  | [] => .isTrue trivial
  | .called _ _ _ :: log =>
    have := decidableContract S log
    inferInstanceAs (Decidable (_ ∧ _))
  | .done _ :: log =>
    have := decidableContract S log
    inferInstanceAs (Decidable (_ ∧ _))
  | .registered _ :: log | .unregistered _ :: log | .posted _ :: log => decidableContract S log

end Registered

end EspHosted.Observers
