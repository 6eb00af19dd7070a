import Mathlib.Algebra.Group.Nat.Defs
import Mathlib.Data.List.Basic
import Mathlib.Tactic.SplitIfs

/-!
# Protocol-buffer fields

A field is a tag, made of its number and its wire type, and a value; numbers are written seven bits
a byte, lowest first, with the top bit set in every byte but the last. Numbers that are zero and
byte strings that are empty are left out.

The library that serializes whole messages is a `Codec`, and `Codec.Lawful` is what is expected of
it.

* `length_varint`: how many bytes a number of at most 35 bits needs;
* `length_uintField`, `length_bytesField`, `length_messageField`: how many a field needs.
-/

namespace EspHosted.Wire

/-- At most `fuel` bytes. -/
def varintAux : Nat → Nat → List UInt8
  | 0, _ => []
  | fuel + 1, n =>
    if n < 128 then [n.toUInt8] else (n % 128 + 128).toUInt8 :: varintAux fuel (n / 128)

/-- A number of 64 bits needs ten bytes. -/
def varint (n : Nat) : List UInt8 := varintAux 10 n

/-- A number, with wire type 0. -/
def uintField (field n : Nat) : List UInt8 :=
  if n = 0 then [] else varint (field * 8) ++ varint n

/-- A message, with wire type 2; it is written also if it is empty. -/
def messageField (field : Nat) (bytes : List UInt8) : List UInt8 :=
  varint (field * 8 + 2) ++ (varint bytes.length ++ bytes)

/-- A string of bytes, with wire type 2. -/
def bytesField (field : Nat) (bytes : List UInt8) : List UInt8 :=
  if bytes = [] then [] else messageField field bytes

def varintLen (n : Nat) : Nat :=
  if n < 2 ^ 7 then 1 else if n < 2 ^ 14 then 2 else if n < 2 ^ 21 then 3
  else if n < 2 ^ 28 then 4 else 5

/-- A byte more takes seven more bits. -/
theorem length_varintAux (fuel n : Nat) : (varintAux (fuel + 1) n).length =
    if n < 128 then 1 else (varintAux fuel (n / 128)).length + 1 := by
  rw [varintAux]
  split
  · rfl
  · rw [List.length_cons]

theorem length_varint {n : Nat} (h : n < 2 ^ 35) : (varint n).length = varintLen n := by
  have hTwo : n / 128 < 128 ↔ n < 2 ^ 14 := by omega
  have hThree : n / 128 / 128 < 128 ↔ n < 2 ^ 21 := by omega
  have hFour : n / 128 / 128 / 128 < 128 ↔ n < 2 ^ 28 := by omega
  have hFive : n / 128 / 128 / 128 / 128 < 128 ↔ n < 2 ^ 35 := by omega
  rw [varint, length_varintAux, length_varintAux, length_varintAux, length_varintAux,
    length_varintAux]
  simp only [hTwo, hThree, hFour, hFive, if_pos h]
  unfold varintLen
  split_ifs <;> omega

theorem length_uintField {field n : Nat} (hField : field * 8 < 2 ^ 35) (hValue : n < 2 ^ 35) :
    (uintField field n).length =
      if n = 0 then 0 else varintLen (field * 8) + varintLen n := by
  unfold uintField
  split
  · rfl
  · rw [List.length_append, length_varint hField, length_varint hValue]

theorem length_messageField {field : Nat} {bytes : List UInt8} (hField : field * 8 + 2 < 2 ^ 35)
    (hBytes : bytes.length < 2 ^ 35) : (messageField field bytes).length =
      varintLen (field * 8 + 2) + (varintLen bytes.length + bytes.length) := by
  unfold messageField
  rw [List.length_append, List.length_append, length_varint hField, length_varint hBytes]

theorem length_bytesField {field : Nat} {bytes : List UInt8} (hField : field * 8 + 2 < 2 ^ 35)
    (hBytes : bytes.length < 2 ^ 35) : (bytesField field bytes).length =
      if bytes.length = 0 then 0
      else varintLen (field * 8 + 2) + (varintLen bytes.length + bytes.length) := by
  unfold bytesField
  by_cases hNil : bytes = []
  · rw [if_pos hNil, if_pos (List.length_eq_zero_iff.mpr hNil)]
    rfl
  · rw [if_neg hNil, if_neg (mt List.length_eq_zero_iff.mp hNil), length_messageField hField hBytes]

/-! ## Messages -/

variable {μ : Type}

/-- A library that serializes messages and reads them back. -/
structure Codec (μ : Type) where
  pack : μ → List UInt8
  unpack : List UInt8 → Option μ

/-- It serializes this message as the format says, and reads it back. -/
def Codec.Lawful (c : Codec μ) (wire : μ → List UInt8) (m : μ) : Prop :=
  c.pack m = wire m ∧ c.unpack (wire m) = some m

/-- A library that knows one message. -/
def Codec.only (wire : μ → List UInt8) (m : μ) : Codec μ where
  pack := wire
  unpack bytes := if bytes = wire m then some m else none

theorem Codec.only_lawful (wire : μ → List UInt8) (m : μ) : (Codec.only wire m).Lawful wire m :=
  ⟨rfl, if_pos rfl⟩

end EspHosted.Wire
