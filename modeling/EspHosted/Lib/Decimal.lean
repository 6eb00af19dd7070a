import Mathlib.Data.Nat.Digits.Defs
import Mathlib.Data.Nat.Digits.Lemmas

/-!
# Decimal numbers as text

The digits of a number, first the most significant one, and the value of a text of digits.

* `value_digits`: the digits of a number have its value;
* `digits_length_le`: a number has at most `k` digits exactly if it is below `10 ^ k`.
-/

namespace EspHosted.Decimal

/-- `isdigit`. -/
def isDigit (c : UInt8) : Bool := 48 ≤ c.toNat && c.toNat ≤ 57

def value (text : List UInt8) : Nat := text.foldl (fun n c => n * 10 + (c.toNat - 48)) 0

/-- The text of a positive number. -/
def digits (n : Nat) : List UInt8 := (Nat.digits 10 n).reverse.map fun d => UInt8.ofNat (48 + d)

theorem toNat_digit {d : Nat} (h : d < 10) : (UInt8.ofNat (48 + d)).toNat = 48 + d := by
  rw [UInt8.toNat_ofNat']
  omega

theorem isDigit_of_mem {n : Nat} {c : UInt8} (h : c ∈ digits n) : isDigit c = true := by
  obtain ⟨d, hd, rfl⟩ := List.mem_map.mp h
  have hLt := Nat.digits_lt_base (by omega : 1 < 10) (List.mem_reverse.mp hd)
  simp only [isDigit, toNat_digit hLt, Bool.and_eq_true, decide_eq_true_eq]
  omega

theorem value_map {ds : List Nat} (h : ∀ d ∈ ds, d < 10) :
    value (ds.reverse.map fun d => UInt8.ofNat (48 + d)) = Nat.ofDigits 10 ds := by
  induction ds with
  | nil => rfl
  | cons d ds ih =>
    have hTail := ih fun d hd => h d (List.mem_cons_of_mem _ hd)
    rw [value] at hTail
    rw [value, List.reverse_cons, List.map_append, List.foldl_append, hTail, List.map_singleton,
      List.foldl_cons, List.foldl_nil, toNat_digit (h d List.mem_cons_self), Nat.ofDigits_cons]
    omega

theorem value_digits (n : Nat) : value (digits n) = n := by
  rw [digits, value_map fun d hd => Nat.digits_lt_base (by omega) hd, Nat.ofDigits_digits]

theorem digits_length_le {k n : Nat} : (digits n).length ≤ k ↔ n < 10 ^ k := by
  rw [digits, List.length_map, List.length_reverse, Nat.digits_length_le_iff (by omega)]

theorem value_append_singleton (cs : List UInt8) (c : UInt8) :
    value (cs ++ [c]) = value cs * 10 + (c.toNat - 48) := by
  rw [value, List.foldl_append, List.foldl_cons, List.foldl_nil, ← value]

theorem value_lt {cs : List UInt8} (h : ∀ c ∈ cs, isDigit c = true) :
    value cs < 10 ^ cs.length := by
  induction cs using List.reverseRecOn with
  | nil => exact Nat.one_pos
  | append_singleton cs c ih =>
    have hInit := ih fun d hd => h d (List.mem_append_left _ hd)
    have hLast := h c (List.mem_append_right _ List.mem_cons_self)
    simp only [isDigit, Bool.and_eq_true, decide_eq_true_eq] at hLast
    rw [value_append_singleton, List.length_append, List.length_singleton, Nat.pow_succ]
    omega

/-- The last digit is the remainder, and the digits before it are those of the quotient. -/
theorem digits_div {n : Nat} (h : 0 < n) :
    digits n = digits (n / 10) ++ [UInt8.ofNat (48 + n % 10)] := by
  rw [digits, digits, Nat.digits_def' (by omega) h, List.reverse_cons, List.map_append,
    List.map_singleton]

end EspHosted.Decimal
