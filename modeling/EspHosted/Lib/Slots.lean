import Mathlib.Data.List.Basic

/-!
# Tables of slots

A table of fixed size whose entries carry a number; the number 0 marks a free slot. A number
is looked up by a scan from the first slot on, and a scan for 0 finds a free slot.

`Distinct` says that no number other than 0 occurs twice. Filling a free slot with a number
that is new and freeing a slot keep it (`Distinct.fill`, `Distinct.erase`).
-/

namespace EspHosted.Slots

variable {α β : Type*}

structure Slot (α : Type*) where
  uid : Nat
  item : α

/-- The first slot with the given number. -/
def find (t : List (Slot α)) (uid : Nat) : Option Nat := t.findIdx? (·.uid == uid)

/-- The first free slot. -/
def findFree (t : List (Slot α)) : Option Nat := find t 0

/-- The number is in the table. -/
def Has (t : List (Slot α)) (uid : Nat) : Prop := ∃ e ∈ t, e.uid = uid

instance (t : List (Slot α)) (uid : Nat) : Decidable (Has t uid) :=
  inferInstanceAs (Decidable (∃ e ∈ t, e.uid = uid))

/-- A number that is not 0 stands in one slot at most. -/
def Distinct (t : List (Slot α)) : Prop :=
  ∀ (i j : Nat) (e f : Slot α), t[i]? = some e → t[j]? = some f → e.uid ≠ 0 → e.uid = f.uid → i = j

/-- No number other than 0 is in both tables. -/
def Apart (t : List (Slot α)) (t' : List (Slot β)) : Prop :=
  ∀ uid, uid ≠ 0 → Has t uid → ¬ Has t' uid

theorem has_of_getElem {t : List (Slot α)} {i : Nat} {e : Slot α} (h : t[i]? = some e) :
    Has t e.uid :=
  ⟨e, List.mem_of_getElem? h, rfl⟩

theorem find_some {t : List (Slot α)} {uid i : Nat} (h : find t uid = some i) :
    ∃ e, t[i]? = some e ∧ e.uid = uid := by
  obtain ⟨hi, hUid, -⟩ := List.findIdx?_eq_some_iff_getElem.mp h
  exact ⟨t[i], List.getElem?_eq_getElem hi, by simpa using hUid⟩

theorem find_none {t : List (Slot α)} {uid : Nat} (h : find t uid = none) : ¬ Has t uid := by
  rintro ⟨e, he, rfl⟩
  have hNone := List.findIdx?_eq_none_iff.mp h e he
  simp at hNone

theorem has_of_find {t : List (Slot α)} {uid i : Nat} (h : find t uid = some i) : Has t uid := by
  obtain ⟨e, he, rfl⟩ := find_some h
  exact has_of_getElem he

theorem find_isSome {t : List (Slot α)} {uid : Nat} (h : Has t uid) : ∃ i, find t uid = some i := by
  cases hFind : find t uid with
  | none => exact absurd h (find_none hFind)
  | some i => exact ⟨i, rfl⟩

/-- A slot that is found is not a free one, if 0 is not looked up or there is none. -/
theorem uid_ne_zero_of_find {t : List (Slot α)} {uid i : Nat} (hFind : find t uid = some i)
    (hUid : uid ≠ 0 ∨ ¬ Has t 0) : uid ≠ 0 := by
  rcases hUid with hNe | hNone
  · exact hNe
  · rintro rfl
    exact hNone (has_of_find hFind)

/-- In a table without repetitions the scan finds the slot itself. -/
theorem Distinct.find_eq {t : List (Slot α)} (hDistinct : Distinct t) {i : Nat} {e : Slot α}
    (h : t[i]? = some e) (hNe : e.uid ≠ 0) : find t e.uid = some i := by
  obtain ⟨j, hj⟩ := find_isSome (has_of_getElem h)
  obtain ⟨f, hf, hEq⟩ := find_some hj
  rw [hj, hDistinct i j e f h hf hNe hEq.symm]

/-- What holds of one place of a list at most is counted once at most. -/
theorem countP_le_one {t : List β} {p : β → Bool}
    (h : ∀ (i j : Nat) (e f : β), t[i]? = some e → t[j]? = some f → p e → p f → i = j) :
    t.countP p ≤ 1 := by
  induction t with
  | nil => simp
  | cons a t ih =>
    have hTail : t.countP p ≤ 1 := ih fun i j e f hi hj he hf =>
      Nat.succ.inj (h (i + 1) (j + 1) e f (by simpa using hi) (by simpa using hj) he hf)
    rw [List.countP_cons]
    split
    · rename_i ha
      have hNone : t.countP p = 0 := by
        rw [List.countP_eq_zero]
        intro f hf hp
        obtain ⟨j, hj⟩ := List.mem_iff_getElem?.mp hf
        exact absurd (h 0 (j + 1) a f rfl (by simpa using hj) ha hp) (by omega)
      omega
    · exact hTail

/-- Replacing one place of a list changes a count by what holds there. -/
theorem countP_set_add {t : List β} {i : Nat} {a b : β} (p : β → Bool) (h : t[i]? = some a) :
    (t.set i b).countP p + (if p a then 1 else 0) = t.countP p + (if p b then 1 else 0) := by
  obtain ⟨hi, rfl⟩ := List.getElem?_eq_some_iff.mp h
  rw [List.countP_set hi]
  split
  · have hPos : 0 < t.countP p := List.countP_pos_iff.mpr ⟨t[i], List.getElem_mem hi, ‹_›⟩
    omega
  · omega

theorem countP_set_toNat {t : List β} {i : Nat} {a b : β} (p : β → Bool) (h : t[i]? = some a) :
    (t.set i b).countP p + (p a).toNat = t.countP p + (p b).toNat := by
  have hSet := countP_set_add (b := b) p h
  cases hA : p a <;> cases hB : p b <;>
    simpa only [hA, hB, Bool.false_eq_true, if_true, if_false, Bool.toNat_false, Bool.toNat_true]
      using hSet

theorem count_set_add [DecidableEq β] {t : List β} {i : Nat} {a b : β} (x : β)
    (h : t[i]? = some a) :
    (t.set i b).count x + (if a = x then 1 else 0) = t.count x + (if b = x then 1 else 0) := by
  have hSet := countP_set_add (b := b) (· == x) h
  simpa only [List.count, beq_iff_eq] using hSet

/-! ## Changing one slot -/

theorem getElem?_set_cases {t : List (Slot α)} {i j : Nat} {e f : Slot α}
    (h : (t.set i e)[j]? = some f) : (j = i ∧ f = e) ∨ (j ≠ i ∧ t[j]? = some f) := by
  rw [List.getElem?_set] at h
  split at h
  · rename_i hEq
    subst hEq
    split at h
    · cases h
      exact Or.inl ⟨rfl, rfl⟩
    · cases h
  · rename_i hNe
    exact Or.inr ⟨fun hEq => hNe hEq.symm, h⟩

theorem has_set {t : List (Slot α)} {i uid : Nat} {e : Slot α} (h : Has (t.set i e) uid) :
    e.uid = uid ∨ Has t uid := by
  obtain ⟨f, hf, rfl⟩ := h
  rcases List.mem_or_eq_of_mem_set hf with hf | rfl
  · exact Or.inr ⟨f, hf, rfl⟩
  · exact Or.inl rfl

theorem Distinct.erase {t : List (Slot α)} (h : Distinct t) (i : Nat) (item : α) :
    Distinct (t.set i ⟨0, item⟩) := by
  intro j k e f hj hk hNe hEq
  rcases getElem?_set_cases hj with ⟨-, rfl⟩ | ⟨-, hj⟩
  · exact absurd rfl hNe
  · rcases getElem?_set_cases hk with ⟨-, rfl⟩ | ⟨-, hk⟩
    · exact absurd hEq hNe
    · exact h j k e f hj hk hNe hEq

theorem Distinct.fill {t : List (Slot α)} (h : Distinct t) (i : Nat) {uid : Nat}
    (hNew : ¬ Has t uid) (item : α) : Distinct (t.set i ⟨uid, item⟩) := by
  intro j k e f hj hk hNe hEq
  rcases getElem?_set_cases hj with ⟨rfl, rfl⟩ | ⟨-, hOld⟩
  · rcases getElem?_set_cases hk with ⟨rfl, -⟩ | ⟨-, hOld⟩
    · rfl
    · have hHas := has_of_getElem hOld
      rw [← hEq] at hHas
      exact absurd hHas hNew
  · rcases getElem?_set_cases hk with ⟨rfl, rfl⟩ | ⟨-, hOld'⟩
    · have hHas := has_of_getElem hOld
      rw [hEq] at hHas
      exact absurd hHas hNew
    · exact h j k e f hOld hOld' hNe hEq

theorem Apart.symm {t : List (Slot α)} {t' : List (Slot β)} (h : Apart t t') : Apart t' t :=
  fun uid hNe hHas' hHas => h uid hNe hHas hHas'

theorem Apart.erase {t : List (Slot α)} {t' : List (Slot β)} (h : Apart t t') (i : Nat) (item : α) :
    Apart (t.set i ⟨0, item⟩) t' := by
  intro uid hNe hHas
  rcases has_set hHas with hZero | hHas
  · exact absurd hZero.symm hNe
  · exact h uid hNe hHas

theorem Apart.fill {t : List (Slot α)} {t' : List (Slot β)} (h : Apart t t') (i : Nat) {uid : Nat}
    (hNew : ¬ Has t' uid) (item : α) : Apart (t.set i ⟨uid, item⟩) t' := by
  intro u hNe hHas
  rcases has_set hHas with rfl | hHas
  · exact hNew
  · exact h u hNe hHas

/-! ## Changing one field of a slot -/

/-- Writes the number of a slot, whose item stays. -/
def setUid (t : List (Slot α)) (i uid : Nat) : List (Slot α) := t.modify i fun e => { e with uid }

/-- Changes the item of a slot, whose number stays. -/
def setItem (t : List (Slot α)) (i : Nat) (f : α → α) : List (Slot α) :=
  t.modify i fun e => { e with item := f e.item }

section Fields

variable {t : List (Slot α)} {i uid : Nat} {e : Slot α} {f g : α → α}

theorem modify_eq_set {h : β → β} {l : List β} {b : β} (hb : l[i]? = some b) :
    l.modify i h = l.set i (h b) := by
  apply List.ext_getElem?
  intro j
  rw [List.getElem?_modify, List.getElem?_set]
  by_cases hEq : i = j
  · subst hEq
    obtain ⟨hLt, rfl⟩ := List.getElem?_eq_some_iff.mp hb
    simp [hLt]
  · simp [hEq]

theorem setItem_setUid (h : t[i]? = some e) :
    setItem (setUid t i uid) i f = t.set i ⟨uid, f e.item⟩ := by
  unfold setItem setUid
  rw [List.modify_modify_eq, modify_eq_set h]
  rfl

theorem setItem_setUid_const {a : α} :
    setItem (setUid t i uid) i (fun _ => a) = t.set i ⟨uid, a⟩ := by
  unfold setItem setUid
  rw [List.modify_modify_eq, List.set_eq_modify]
  rfl

theorem setItem_setItem : setItem (setItem t i f) i g = setItem t i (g ∘ f) := by
  unfold setItem
  rw [List.modify_modify_eq]
  rfl

theorem setItem_eq_set (h : t[i]? = some e) : setItem t i f = t.set i ⟨e.uid, f e.item⟩ :=
  modify_eq_set h

theorem getElem?_setItem (h : t[i]? = some e) : (setItem t i f)[i]? = some ⟨e.uid, f e.item⟩ := by
  unfold setItem
  rw [List.getElem?_modify_eq, h]
  rfl

theorem map_uid_setItem : (setItem t i f).map Slot.uid = t.map Slot.uid := by
  apply List.ext_getElem?
  intro j
  unfold setItem
  rw [List.getElem?_map, List.getElem?_map, List.getElem?_modify]
  cases t[j]? with
  | none => rfl
  | some e =>
    by_cases hEq : i = j
    · simp [hEq]
    · simp [hEq]

theorem find_eq_findIdx : find t uid = (t.map Slot.uid).findIdx? (· == uid) := by
  unfold find
  rw [List.findIdx?_map]
  rfl

/-- A scan reads nothing but the numbers. -/
theorem find_congr {t' : List (Slot β)} (h : t.map Slot.uid = t'.map Slot.uid) :
    find t uid = find t' uid := by
  rw [find_eq_findIdx, find_eq_findIdx, h]

theorem has_iff_mem : Has t uid ↔ uid ∈ t.map Slot.uid := by
  unfold Has
  rw [List.mem_map]

theorem has_setItem : Has (setItem t i f) uid ↔ Has t uid := by
  rw [has_iff_mem, map_uid_setItem, has_iff_mem]

/-- A slot that is freed takes no number into the table but 0. -/
theorem has_setUid (h : Has (setUid t i 0) uid) : uid = 0 ∨ Has t uid := by
  obtain ⟨e, he, rfl⟩ := h
  obtain ⟨j, hj⟩ := List.mem_iff_getElem?.mp he
  unfold setUid at hj
  rw [List.getElem?_modify] at hj
  obtain ⟨f, hf, hEq⟩ := Option.map_eq_some_iff.mp hj
  split at hEq
  · subst hEq
    exact .inl rfl
  · subst hEq
    exact .inr (has_of_getElem hf)

theorem Distinct.congr {t' : List (Slot β)} (hDistinct : Distinct t)
    (h : t.map Slot.uid = t'.map Slot.uid) : Distinct t' := by
  have hOld {i : Nat} {e : Slot β} (hi : t'[i]? = some e) :
      ∃ f, t[i]? = some f ∧ f.uid = e.uid := by
    have hUid : (t.map Slot.uid)[i]? = some e.uid := by
      rw [h, List.getElem?_map, hi]
      rfl
    rw [List.getElem?_map] at hUid
    exact Option.map_eq_some_iff.mp hUid
  intro i j e f hi hj hNe hEq
  obtain ⟨e', he, hUid⟩ := hOld hi
  obtain ⟨f', hf, hUid'⟩ := hOld hj
  exact hDistinct i j e' f' he hf (hUid.symm ▸ hNe) (hUid.trans (hEq.trans hUid'.symm))

theorem Apart.congr {γ δ : Type*} {t₁ : List (Slot β)} {t' : List (Slot γ)} {t₁' : List (Slot δ)}
    (hApart : Apart t t') (h : t.map Slot.uid = t₁.map Slot.uid)
    (h' : t'.map Slot.uid = t₁'.map Slot.uid) : Apart t₁ t₁' := by
  intro uid hNe hHas hHas'
  rw [has_iff_mem, ← h, ← has_iff_mem] at hHas
  rw [has_iff_mem, ← h', ← has_iff_mem] at hHas'
  exact hApart uid hNe hHas hHas'

end Fields

end EspHosted.Slots
