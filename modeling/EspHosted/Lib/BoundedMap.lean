import Mathlib.Data.Set.Card
import Mathlib.Data.List.Perm.Basic
import Mathlib.Logic.Function.Basic

/-!
# Maps of bounded size

A map from keys to values that has a value for at most `cap` keys. `apply` is its specification:
what an operation answers and what the map is afterwards; a history of operations with answers is
`Legal` if the map could have given them one after the other.

A list of pairs `Represents` a map if no key is in two of them. Tables whose slots are empty or
hold a pair are such lists, by their `entries`.

* `Represents.put`, `Represents.remove`, `Represents.replace`: changing one pair;
* `Represents.ncard`: a represented map has as many keys as there are pairs;
* `entries_set`: changing one slot changes one pair;
* `entries_full_iff`: no slot is empty if there are as many keys as slots.
-/

namespace EspHosted.BoundedMap

variable {K V : Type*}

/-! ## Specification -/

inductive Op (K V : Type*)
  | set (key : K) (value : V)
  | remove (key : K)
  | get (key : K)

inductive Answer (V : Type*)
  | done
  | absent
  | full
  | value (v : Option V)

/-- The keys with a value. -/
def domain (f : K → Option V) : Set K := {k | f k ≠ none}

section

variable [DecidableEq K]

open Classical in
/-- The map after an operation, and the answer. -/
noncomputable def apply (cap : Nat) (f : K → Option V) : Op K V → (K → Option V) × Answer V
  | .set k v =>
    if f k ≠ none ∨ (domain f).ncard < cap then (Function.update f k (some v), .done)
    else (f, .full)
  | .remove k => if f k ≠ none then (Function.update f k none, .done) else (f, .absent)
  | .get k => (f, .value (f k))

/-- The answers of a map that is empty first, and the map after them. -/
inductive Legal (cap : Nat) : List (Op K V × Answer V) → (K → Option V) → Prop
  | empty : Legal cap [] fun _ => none
  | next {h : List (Op K V × Answer V)} {f : K → Option V} (op : Op K V) :
      Legal cap h f → Legal cap (h ++ [(op, (apply cap f op).2)]) (apply cap f op).1

variable {cap : Nat} {f : K → Option V} {k : K}

theorem apply_set (h : f k ≠ none ∨ (domain f).ncard < cap) (v : V) :
    apply cap f (.set k v) = (Function.update f k (some v), .done) := by
  rw [apply, if_pos h]

/-- A value that is said to be stored is. -/
theorem apply_set_done {v : V} (h : (apply cap f (.set k v)).2 = .done) :
    (apply cap f (.set k v)).1 = Function.update f k (some v) := by
  rw [apply] at h ⊢
  split at h
  · rename_i hRoom
    rw [if_pos hRoom]
  · cases h

/-- The last answer of a history. -/
theorem Legal.last {h : List (Op K V × Answer V)} {op : Op K V} {a : Answer V}
    (hLegal : Legal cap (h ++ [(op, a)]) f) :
    ∃ g, Legal cap h g ∧ f = (apply cap g op).1 ∧ a = (apply cap g op).2 := by
  generalize hList : h ++ [(op, a)] = list at hLegal
  cases hLegal with
  | empty => exact absurd hList (List.append_ne_nil_of_right_ne_nil h (List.cons_ne_nil _ _))
  | next op' hLegal =>
    obtain ⟨rfl, hLast⟩ := List.append_inj' hList rfl
    cases hLast
    exact ⟨_, hLegal, rfl, rfl⟩

theorem apply_set_full (hNone : f k = none) (hFull : ¬ (domain f).ncard < cap) (v : V) :
    apply cap f (.set k v) = (f, .full) := by
  rw [apply, if_neg (not_or.mpr ⟨not_not.mpr hNone, hFull⟩)]

theorem apply_remove (h : f k ≠ none) :
    apply cap f (.remove k) = (Function.update f k none, .done) := by
  rw [apply, if_pos h]

theorem apply_remove_absent (h : f k = none) : apply cap f (.remove k) = (f, .absent) := by
  rw [apply, if_neg (not_not.mpr h)]

end

/-! ## Pairs -/

structure Represents (f : K → Option V) (pairs : List (K × V)) : Prop where
  nodup : (pairs.map Prod.fst).Nodup
  mem_iff : ∀ k v, f k = some v ↔ (k, v) ∈ pairs

namespace Represents

variable {f : K → Option V} {pairs pairs' : List (K × V)} {k : K} {v v' : V}

theorem empty : Represents (fun _ : K => (none : Option V)) [] where
  nodup := List.nodup_nil
  mem_iff := fun _ _ => ⟨nofun, fun h => absurd h List.not_mem_nil⟩

theorem perm (h : Represents f pairs) (hPerm : pairs.Perm pairs') : Represents f pairs' where
  nodup := (hPerm.map Prod.fst).nodup_iff.mp h.nodup
  mem_iff := fun k v => (h.mem_iff k v).trans hPerm.mem_iff

theorem none_iff (h : Represents f pairs) : f k = none ↔ ∀ v, (k, v) ∉ pairs := by
  refine ⟨fun hNone v hMem => ?_, fun hAll => ?_⟩
  · rw [(h.mem_iff k v).mpr hMem] at hNone
    cases hNone
  · cases hValue : f k with
    | none => rfl
    | some v => exact absurd ((h.mem_iff k v).mp hValue) (hAll v)

theorem ncard (h : Represents f pairs) : (domain f).ncard = pairs.length := by
  classical
  have hDomain : domain f = ((pairs.map Prod.fst).toFinset : Set K) := by
    ext k
    rw [List.coe_toFinset, Set.mem_ofPred_eq, List.mem_map, domain, Set.mem_ofPred_eq,
      ne_eq, h.none_iff, not_forall]
    refine ⟨fun ⟨v, hMem⟩ => ⟨(k, v), not_not.mp hMem, rfl⟩, fun ⟨⟨k', v⟩, hMem, hKey⟩ => ?_⟩
    cases hKey
    exact ⟨v, not_not.mpr hMem⟩
  rw [hDomain, Set.ncard_coe_finset, List.toFinset_card_of_nodup h.nodup, List.length_map]

section

variable [DecidableEq K]

theorem put (h : Represents f pairs) (hNew : f k = none) :
    Represents (Function.update f k (some v)) ((k, v) :: pairs) where
  nodup := by
    rw [List.map_cons, List.nodup_cons]
    refine ⟨fun hMem => ?_, h.nodup⟩
    obtain ⟨⟨k', w⟩, hPair, hKey⟩ := List.mem_map.mp hMem
    cases hKey
    exact h.none_iff.mp hNew w hPair
  mem_iff := by
    intro k' w
    by_cases hKey : k' = k
    · subst hKey
      rw [Function.update_self, List.mem_cons]
      refine ⟨fun hEq => Or.inl (by rw [Option.some.inj hEq]), fun hMem => ?_⟩
      rcases hMem with hHead | hTail
      · rw [(Prod.mk.inj hHead).2]
      · exact absurd hTail (h.none_iff.mp hNew w)
    · rw [Function.update_of_ne hKey, List.mem_cons, h.mem_iff]
      refine ⟨Or.inr, fun hMem => hMem.resolve_left fun hHead => hKey (Prod.mk.inj hHead).1⟩

theorem remove (h : Represents f ((k, v) :: pairs)) :
    Represents (Function.update f k none) pairs where
  nodup := (List.nodup_cons.mp h.nodup).2
  mem_iff := by
    intro k' w
    have hGone := (List.nodup_cons.mp h.nodup).1
    by_cases hKey : k' = k
    · subst hKey
      rw [Function.update_self]
      refine ⟨nofun, fun hMem => absurd (List.mem_map_of_mem (f := Prod.fst) hMem) hGone⟩
    · rw [Function.update_of_ne hKey, h.mem_iff, List.mem_cons]
      refine ⟨fun hMem => hMem.resolve_left fun hHead => hKey (Prod.mk.inj hHead).1, Or.inr⟩

theorem replace (h : Represents f ((k, v) :: pairs)) :
    Represents (Function.update f k (some v')) ((k, v') :: pairs) := by
  have hPut := h.remove.put (k := k) (v := v') (Function.update_self _ _ _)
  rwa [Function.update_idem] at hPut

end

end Represents

/-! ## Tables -/

section Tables

variable {σ : Type*} (view : σ → Option (K × V)) {t : List σ} {i : Nat} {old : σ}

/-- The pairs in the slots of a table. -/
def entries (t : List σ) : List (K × V) := t.filterMap view

theorem mem_entries {p : K × V} : p ∈ entries view t ↔ ∃ s ∈ t, view s = some p :=
  List.mem_filterMap

theorem entries_split (h : t[i]? = some old) : (entries view t).Perm
    ((view old).toList ++ (entries view (t.take i) ++ entries view (t.drop (i + 1)))) := by
  obtain ⟨hi, hOld⟩ := List.getElem?_eq_some_iff.mp h
  have hSplit : t = t.take i ++ ([old] ++ t.drop (i + 1)) := by
    rw [List.singleton_append, ← hOld, List.getElem_cons_drop, List.take_append_drop]
  have hView : entries view [old] = (view old).toList := by
    cases hPair : view old with
    | none => simp [entries, hPair]
    | some p => simp [entries, hPair]
  have hEntries : entries view t =
      entries view (t.take i) ++ ((view old).toList ++ entries view (t.drop (i + 1))) := by
    rw [← hView]
    unfold entries
    rw [← List.filterMap_append, ← List.filterMap_append, ← hSplit]
  rw [hEntries, ← List.append_assoc, ← List.append_assoc]
  exact List.perm_append_comm.append_right _

/-- The pairs of the other slots stay. -/
theorem entries_set (h : t[i]? = some old) (new : σ) :
    ∃ rest, (entries view t).Perm ((view old).toList ++ rest) ∧
      (entries view (t.set i new)).Perm ((view new).toList ++ rest) := by
  obtain ⟨hi, -⟩ := List.getElem?_eq_some_iff.mp h
  refine ⟨_, entries_split view h, ?_⟩
  have hNew := entries_split view (List.getElem?_set_self (a := new) hi)
  rwa [List.take_set_of_le (Nat.le_refl i), List.drop_set_of_lt (Nat.lt_succ_self i)] at hNew

theorem entries_full_iff {f : K → Option V} (h : Represents f (entries view t)) :
    (domain f).ncard < t.length ↔ ∃ s ∈ t, view s = none := by
  rw [h.ncard, entries, List.length_filterMap_lt_length_iff_exists]
  simp only [exists_prop]

end Tables

end EspHosted.BoundedMap
