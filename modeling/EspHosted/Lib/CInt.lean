import Mathlib.Algebra.Group.Int.Defs
import Mathlib.Algebra.Group.Nat.Defs
import Mathlib.Algebra.Order.Ring.Int

/-!
# Integer types of C

A value that is copied from structure to structure is converted to the type of every field on its
way.

* `convert_of_covers`: a type that is wide enough does not change what a later type sees;
* `CType.Holds.mono`: a value of a type is one of every type within which it lies;
* `arrives_of_lossless`: when a value arrives as if it had been handed over directly;
* `arrives_iff`: when a value gets through a narrow field.
-/

namespace EspHosted.CInt

inductive CType
  | bool
  | uint (width : Nat)
  | int (width : Nat)
  deriving DecidableEq

/-- Conversion to a type. -/
def CType.convert : CType → Int → Int
  | .bool, n => if n = 0 then 0 else 1
  | .uint w, n => n % (2 ^ w : Nat)
  | .int w, n => n.bmod (2 ^ w)

/-- A value of the type. -/
def CType.Holds (t : CType) (n : Int) : Prop := t.convert n = n

instance (t : CType) (n : Int) : Decidable (t.Holds n) := inferInstanceAs (Decidable (_ = _))

/-- Every value of the first type is one of the second. -/
def CType.within : CType → CType → Bool
  | .bool, .bool => true
  | .bool, .uint w => decide (1 ≤ w)
  | .bool, .int w => decide (2 ≤ w)
  | .uint v, .uint w => decide (v ≤ w)
  | .uint v, .int w => decide (v < w)
  | .int v, .int w => decide (1 ≤ v ∧ v ≤ w)
  | _, _ => false

/-- The second type sees only bits that the first keeps. -/
def CType.covers : CType → CType → Bool
  | .uint v, .uint w | .uint v, .int w | .int v, .uint w | .int v, .int w => decide (w ≤ v)
  | _, _ => false

/-! ## Values of a type -/

theorem holds_bool_iff {n : Int} : CType.bool.Holds n ↔ n = 0 ∨ n = 1 := by
  show (if n = 0 then 0 else 1) = n ↔ n = 0 ∨ n = 1
  split <;> omega

theorem holds_uint_iff {w : Nat} {n : Int} :
    (CType.uint w).Holds n ↔ 0 ≤ n ∧ n < (2 ^ w : Nat) := by
  have hPos : (0 : Int) < (2 ^ w : Nat) := Int.natCast_pos.mpr (Nat.two_pow_pos w)
  show n % (2 ^ w : Nat) = n ↔ _
  constructor
  · intro h
    exact h ▸ ⟨Int.emod_nonneg _ (Int.ne_of_gt hPos), Int.emod_lt_of_pos _ hPos⟩
  · rintro ⟨hLow, hHigh⟩
    exact Int.emod_eq_of_lt hLow hHigh

theorem two_mul_half {w : Nat} (h : 1 ≤ w) : 2 * 2 ^ (w - 1) = 2 ^ w := by
  rw [← Nat.pow_succ', Nat.succ_eq_add_one, Nat.sub_add_cancel h]

theorem holds_int_iff {w : Nat} (h : 1 ≤ w) {n : Int} :
    (CType.int w).Holds n ↔ -((2 ^ (w - 1) : Nat) : Int) ≤ n ∧ n < (2 ^ (w - 1) : Nat) := by
  have hHalf := two_mul_half h
  have hPos := Nat.two_pow_pos (w - 1)
  show n.bmod (2 ^ w) = n ↔ _
  rw [← hHalf]
  generalize 2 ^ (w - 1) = k at hPos
  constructor
  · intro hEq
    have hLow : -(((2 * k : Nat) : Int) / 2) ≤ n.bmod (2 * k) := Int.le_bmod (by omega)
    have hHigh : n.bmod (2 * k) < (((2 * k : Nat) : Int) + 1) / 2 := Int.bmod_lt (by omega)
    rw [hEq] at hLow hHigh
    omega
  · rintro ⟨hLow, hHigh⟩
    exact Int.bmod_eq_of_le (by omega) (by omega)

theorem convert_holds (t : CType) (n : Int) (h : t ≠ .int 0) : t.Holds (t.convert n) := by
  cases t with
  | bool =>
    rw [holds_bool_iff]
    show (if n = 0 then 0 else 1 : Int) = 0 ∨ (if n = 0 then 0 else 1 : Int) = 1
    split <;> omega
  | uint w => exact Int.emod_emod_of_dvd n (Int.dvd_refl _)
  | int w => exact Int.bmod_bmod

theorem CType.Holds.mono {s t : CType} {n : Int} (hn : s.Holds n) (h : s.within t = true) :
    t.Holds n := by
  cases s with
  | bool =>
    rw [holds_bool_iff] at hn
    cases t with
    | bool => exact holds_bool_iff.mpr hn
    | uint w =>
      have hw : 1 ≤ w := of_decide_eq_true h
      have hTwo : 2 ^ 1 ≤ 2 ^ w := Nat.pow_le_pow_right (by decide) hw
      rw [holds_uint_iff]
      omega
    | int w =>
      have hw : 2 ≤ w := of_decide_eq_true h
      have hTwo : 2 ^ 1 ≤ 2 ^ (w - 1) := Nat.pow_le_pow_right (by decide) (by omega)
      rw [holds_int_iff (by omega)]
      omega
  | uint v =>
    rw [holds_uint_iff] at hn
    cases t with
    | bool => cases h
    | uint w =>
      have hLe : 2 ^ v ≤ 2 ^ w := Nat.pow_le_pow_right (by decide) (of_decide_eq_true h)
      rw [holds_uint_iff]
      omega
    | int w =>
      have hw : v < w := of_decide_eq_true h
      have hLe : 2 ^ v ≤ 2 ^ (w - 1) := Nat.pow_le_pow_right (by decide) (by omega)
      rw [holds_int_iff (by omega)]
      omega
  | int v =>
    cases t with
    | bool => cases h
    | uint w => cases h
    | int w =>
      obtain ⟨hv, hw⟩ : 1 ≤ v ∧ v ≤ w := of_decide_eq_true h
      have hLe : 2 ^ (v - 1) ≤ 2 ^ (w - 1) := Nat.pow_le_pow_right (by decide) (by omega)
      rw [holds_int_iff hv] at hn
      rw [holds_int_iff (by omega)]
      omega

/-! ## Conversions one after the other -/

theorem bmod_congr {m : Nat} {a b : Int} (h : a % m = b % m) : a.bmod m = b.bmod m := by
  rw [Int.bmod_def, Int.bmod_def, h]

/-- The low bits of a converted value. -/
theorem convert_emod {t : CType} {v w : Nat} (n : Int) (ht : t = .uint v ∨ t = .int v)
    (h : w ≤ v) : t.convert n % (2 ^ w : Nat) = n % (2 ^ w : Nat) := by
  have hDvd : ((2 ^ w : Nat) : Int) ∣ (2 ^ v : Nat) :=
    Int.natCast_dvd_natCast.mpr (Nat.pow_dvd_pow 2 h)
  have hSame : t.convert n % (2 ^ v : Nat) = n % (2 ^ v : Nat) := by
    rcases ht with rfl | rfl
    · exact Int.emod_emod_of_dvd n (Int.dvd_refl _)
    · exact Int.bmod_emod
  calc t.convert n % (2 ^ w : Nat) = t.convert n % (2 ^ v : Nat) % (2 ^ w : Nat) :=
        (Int.emod_emod_of_dvd _ hDvd).symm
    _ = n % (2 ^ v : Nat) % (2 ^ w : Nat) := by rw [hSame]
    _ = n % (2 ^ w : Nat) := Int.emod_emod_of_dvd n hDvd

theorem convert_of_covers {s t : CType} (n : Int) (h : s.covers t = true) :
    t.convert (s.convert n) = t.convert n := by
  cases s with
  | bool => cases t <;> cases h
  | uint v =>
    cases t with
    | bool => cases h
    | uint w => exact convert_emod n (.inl rfl) (of_decide_eq_true h)
    | int w => exact bmod_congr (convert_emod n (.inl rfl) (of_decide_eq_true h))
  | int v =>
    cases t with
    | bool => cases h
    | uint w => exact convert_emod n (.inr rfl) (of_decide_eq_true h)
    | int w => exact bmod_congr (convert_emod n (.inr rfl) (of_decide_eq_true h))

/-! ## Fields on the way -/

/-- What arrives at the type `t` by way of fields of the types `hops`. -/
def arrives (t : CType) : List CType → Int → Int
  | [], n => t.convert n
  | s :: hops, n => arrives t hops (s.convert n)

/-- Every field holds what the sender can send, or keeps all that the receiver sees. -/
def lossless (s : CType) (hops : List CType) (t : CType) : Bool :=
  hops.all (s.within ·) || hops.all (·.covers t)

theorem arrives_of_within {s t : CType} {hops : List CType} {n : Int} (hn : s.Holds n)
    (h : ∀ u ∈ hops, s.within u = true) : arrives t hops n = t.convert n := by
  induction hops with
  | nil => rfl
  | cons u hops ih =>
    rw [List.forall_mem_cons] at h
    rw [arrives, show u.convert n = n from hn.mono h.1]
    exact ih h.2

theorem arrives_of_covers {t : CType} {hops : List CType} {n : Int}
    (h : ∀ u ∈ hops, u.covers t = true) : arrives t hops n = t.convert n := by
  induction hops generalizing n with
  | nil => rfl
  | cons u hops ih =>
    rw [List.forall_mem_cons] at h
    rw [arrives, ih h.2, convert_of_covers n h.1]

theorem arrives_of_lossless {s t : CType} {hops : List CType} {n : Int} (hn : s.Holds n)
    (h : lossless s hops t = true) : arrives t hops n = t.convert n := by
  rcases (Bool.or_eq_true _ _).mp h with hWithin | hCovers
  · exact arrives_of_within hn (List.all_eq_true.mp hWithin)
  · exact arrives_of_covers (List.all_eq_true.mp hCovers)

/-- A value gets through a narrow field exactly when it is one of its type. -/
theorem arrives_iff {s t u : CType} {hops : List CType} {n : Int} (hn : s.Holds n)
    (hs : s.within t = true) (hu : u ≠ .int 0)
    (h : ∀ x ∈ t :: hops, u.within x = true) :
    arrives t (u :: hops) n = t.convert n ↔ u.Holds n := by
  rw [List.forall_mem_cons] at h
  have hHolds := convert_holds u n hu
  rw [arrives, arrives_of_within hHolds h.2, show t.convert n = n from hn.mono hs,
    show t.convert (u.convert n) = u.convert n from hHolds.mono h.1]
  rfl

end EspHosted.CInt
