import EspHosted.Lib.Bytes
import EspHosted.Lib.Reads
import Mathlib.Logic.Function.Basic

/-!
# Fields in memory

Arrays, bytes and 16-bit numbers are stored at their offsets in a piece of memory, low byte first,
and loaded from theirs. A union has fields that overlap.

* `load_store`, `load16_store16`: what is stored can be loaded;
* `load_store_of_disjoint`, `load_update_of_outside`: what is stored elsewhere does not matter.
-/

namespace EspHosted.Overlay

open Bytes
open Reads (Memory)

variable {n k : Nat} {m : Memory} {o p a : Nat}

def store (m : Memory) (o : Nat) (v : Vector UInt8 n) : Memory := fun a =>
  if h : o ≤ a ∧ a - o < n then v[a - o] else m a

def load (m : Memory) (o n : Nat) : Vector UInt8 n := Vector.ofFn fun i => m (o + i)

def store16 (m : Memory) (o : Nat) (x : UInt16) : Memory :=
  Function.update (Function.update m o (lo x.toNat)) (o + 1) (hi x.toNat)

def load16 (m : Memory) (o : Nat) : UInt16 := UInt16.ofNat (le16 (m o) (m (o + 1)))

theorem store_inside (v : Vector UInt8 n) {i : Nat} (h : i < n) : store m o v (o + i) = v[i] := by
  unfold store
  rw [dif_pos ⟨Nat.le_add_right o i, by omega⟩]
  simp only [Nat.add_sub_cancel_left]

theorem store_of_outside (v : Vector UInt8 n) (h : a < o ∨ o + n ≤ a) : store m o v a = m a :=
  dif_neg (by omega)

theorem load_store (v : Vector UInt8 n) : load (store m o v) o n = v := by
  refine Vector.ext fun i hi => ?_
  rw [load, Vector.getElem_ofFn, store_inside v hi]

theorem load_store_of_disjoint (v : Vector UInt8 k) (h : o + n ≤ p ∨ p + k ≤ o) :
    load (store m p v) o n = load m o n := by
  refine Vector.ext fun i hi => ?_
  rw [load, load, Vector.getElem_ofFn, Vector.getElem_ofFn, store_of_outside v (by omega)]

theorem load_update_of_outside (b : UInt8) (h : a < o ∨ o + n ≤ a) :
    load (Function.update m a b) o n = load m o n := by
  refine Vector.ext fun i hi => ?_
  rw [load, load, Vector.getElem_ofFn, Vector.getElem_ofFn, Function.update_of_ne (by omega)]

theorem load_store16_of_outside (x : UInt16) (h : p + 2 ≤ o ∨ o + n ≤ p) :
    load (store16 m p x) o n = load m o n := by
  rw [store16, load_update_of_outside _ (by omega), load_update_of_outside _ (by omega)]

theorem store16_of_outside (x : UInt16) (h : a < o ∨ o + 2 ≤ a) : store16 m o x a = m a := by
  rw [store16, Function.update_of_ne (by omega), Function.update_of_ne (by omega)]

theorem store16_low (x : UInt16) : store16 m o x o = lo x.toNat := by
  rw [store16, Function.update_of_ne (by omega), Function.update_self]

theorem store16_high (x : UInt16) : store16 m o x (o + 1) = hi x.toNat := by
  rw [store16, Function.update_self]

theorem load16_store16 (x : UInt16) : load16 (store16 m o x) o = x := by
  rw [load16, store16_low, store16_high, le16_lo_hi x.toNat_lt, UInt16.ofNat_toNat]

end EspHosted.Overlay
