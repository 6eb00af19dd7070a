import Mathlib.Data.List.Basic

/-!
# What a parser reads of a buffer

The bytes from a pointer on have no end here. A buffer of some length is loaded in front of
whatever lies behind it, so that a read behind the buffer gives a byte as well, and is told from
a read inside by its place.
-/

namespace EspHosted.Reads

/-- The bytes from a pointer on. -/
abbrev Memory := Nat → UInt8

/-- A buffer in memory, and what lies behind it. -/
def load (bytes : List UInt8) (behind : Memory) : Memory := fun i =>
  if h : i < bytes.length then bytes[i] else behind (i - bytes.length)

/-- Bytes that were read: `len` bytes from `start` on. -/
structure Range where
  start : Nat
  len : Nat
  deriving DecidableEq

def Range.shift (pos : Nat) (r : Range) : Range := ⟨pos + r.start, r.len⟩

def Range.Inside (bufLen : Nat) (r : Range) : Prop := r.len ≠ 0 → r.start + r.len ≤ bufLen

/-- Two memories hold the same first `n` bytes. -/
def Agree (n : Nat) (buf buf' : Memory) : Prop := ∀ i, i < n → buf i = buf' i

theorem Agree.mono {n k : Nat} {buf buf' : Memory} (h : Agree n buf buf') (hLe : k ≤ n) :
    Agree k buf buf' := fun i hi => h i (by omega)

theorem Agree.symm {n : Nat} {buf buf' : Memory} (h : Agree n buf buf') : Agree n buf' buf :=
  fun i hi => (h i hi).symm

theorem load_agree (bytes : List UInt8) (behind behind' : Memory) :
    Agree bytes.length (load bytes behind) (load bytes behind') := by
  intro i hi
  simp [load, hi]

theorem load_append_agree (front rest : List UInt8) (behind behind' : Memory) :
    Agree front.length (load (front ++ rest) behind) (load front behind') := by
  intro i hi
  have hLt : i < front.length + rest.length := by omega
  simp [load, hi, hLt]

/-- The pointer behind a front. -/
theorem load_append_drop (front rest : List UInt8) (behind : Memory) :
    (fun i => load (front ++ rest) behind (front.length + i)) = load rest behind := by
  funext i
  by_cases hi : i < rest.length
  · simp [load, hi]
  · have hSub : front.length + i - (front.length + rest.length) = i - rest.length := by omega
    simp [load, hi, hSub]

theorem range_map_load (front rest : List UInt8) (behind : Memory) :
    (List.range front.length).map (load (front ++ rest) behind) = front := by
  refine List.ext_getElem (by simp) fun i hi hi' => ?_
  have hLt : i < front.length + rest.length := by omega
  simp [load, hLt, hi']

theorem inside_shift {pos n : Nat} {r : Range} :
    (r.shift pos).Inside (pos + n) ↔ r.Inside n := by
  simp only [Range.Inside, Range.shift]
  constructor <;> intro h hNe <;> have hLe := h hNe <;> omega

end EspHosted.Reads
