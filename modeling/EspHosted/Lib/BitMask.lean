import Mathlib.Data.Bool.Basic

/-!
# Flags and fields in a word

A word of 32 bits that several flags and fields are packed into, one after the other, by `or`.

* `getBit_eq`, `getField_eq`: a flag is one bit of the word, and a field is the bits at its place;
* `getLsbD_setBit`, `getLsbD_setField`: the bits of a word that something was put into.
-/

namespace EspHosted.BitMask

/-- `H_SET_BIT` for a flag that is set. -/
def setBit (pos : Nat) (flag : Bool) (word : BitVec 32) : BitVec 32 :=
  if flag then word ||| (1#32 <<< pos) else word

/-- `H_GET_BIT`. -/
def getBit (pos : Nat) (word : BitVec 32) : Bool := word &&& (1#32 <<< pos) ≠ 0#32

/-- A field of `w` bits is put at a place. -/
def setField {w : Nat} (pos : Nat) (value : BitVec w) (word : BitVec 32) : BitVec 32 :=
  word ||| (value.setWidth 32 <<< pos)

def getField (w pos : Nat) (word : BitVec 32) : BitVec w := (word >>> pos).setWidth w

variable {w pos i : Nat} {word : BitVec 32}

theorem getBit_eq (h : pos < 32) : getBit pos word = word.getLsbD pos := by
  have hOne : ∀ k, (word &&& (1#32 <<< pos)).getLsbD k =
      (decide (k = pos) && word.getLsbD pos) := by
    intro k
    rw [BitVec.getLsbD_and, BitVec.getLsbD_shiftLeft]
    by_cases hk : k = pos
    · subst hk
      simp [h]
    · by_cases hLt : k < pos
      · simp [hk, hLt]
      · have hSub : k - pos ≠ 0 := by omega
        simp [hk, hSub]
  cases hBit : word.getLsbD pos with
  | false =>
    rw [getBit, decide_eq_false_iff_not, not_not]
    refine BitVec.eq_of_getLsbD_eq fun k _ => ?_
    rw [hOne, hBit, Bool.and_false, BitVec.getLsbD_zero]
  | true =>
    rw [getBit, decide_eq_true_iff]
    intro hZero
    have hSelf := hOne pos
    rw [hZero, BitVec.getLsbD_zero, hBit] at hSelf
    simp at hSelf

theorem getLsbD_setBit (h : pos < 32) (flag : Bool) (word : BitVec 32) (i : Nat) :
    (setBit pos flag word).getLsbD i = (word.getLsbD i || (flag && decide (i = pos))) := by
  cases flag with
  | false => simp [setBit]
  | true =>
    rw [setBit, if_pos rfl, BitVec.getLsbD_or, BitVec.getLsbD_shiftLeft]
    by_cases hi : i = pos
    · subst hi
      simp [h]
    · by_cases hLt : i < pos
      · simp [hi, hLt]
      · have hSub : i - pos ≠ 0 := by omega
        simp [hi, hSub]

theorem getLsbD_setField (value : BitVec w) (word : BitVec 32) (h : i < 32) :
    (setField pos value word).getLsbD i =
      (word.getLsbD i || (decide (pos ≤ i) && value.getLsbD (i - pos))) := by
  rw [setField, BitVec.getLsbD_or, BitVec.getLsbD_shiftLeft, BitVec.getLsbD_setWidth]
  have hSub : i - pos < 32 := by omega
  by_cases hLe : pos ≤ i
  · simp [h, hLe, hSub, Nat.not_lt.mpr hLe]
  · simp [hLe, Nat.not_le.mp hLe]

theorem getLsbD_getField (w pos : Nat) (word : BitVec 32) (i : Nat) :
    (getField w pos word).getLsbD i = (decide (i < w) && word.getLsbD (pos + i)) := by
  rw [getField, BitVec.getLsbD_setWidth, BitVec.getLsbD_ushiftRight]

/-- A field is what its bits are. -/
theorem getField_eq {value : BitVec w}
    (h : ∀ i, i < w → word.getLsbD (pos + i) = value.getLsbD i) : getField w pos word = value := by
  refine BitVec.eq_of_getLsbD_eq fun i hi => ?_
  rw [getLsbD_getField, h i hi, decide_eq_true hi, Bool.true_and]

end EspHosted.BitMask
