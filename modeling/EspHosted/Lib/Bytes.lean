import Mathlib.Algebra.Group.Nat.Defs
import Mathlib.Data.List.Basic

/-!
# Bytes in memory

Little-endian 16-bit fields, and writing bytes one after the other into a block of memory
of fixed size. A write outside the block gives `none`.
-/

namespace EspHosted.Bytes

/-- Low and high byte of a 16-bit field. -/
def lo (n : Nat) : UInt8 := UInt8.ofNat (n &&& 0xFF)

def hi (n : Nat) : UInt8 := UInt8.ofNat ((n >>> 8) &&& 0xFF)

/-- The value of a little-endian 16-bit field. -/
def le16 (low high : UInt8) : Nat := low.toNat + high.toNat * 256

theorem le16_lo_hi {n : Nat} (h : n < 2 ^ 16) : le16 (lo n) (hi n) = n := by
  have hLo : n &&& 0xFF = n % 256 := Nat.and_two_pow_sub_one_eq_mod n 8
  have hHi : (n >>> 8) &&& 0xFF = n / 256 % 256 := by
    rw [Nat.shiftRight_eq_div_pow]
    exact Nat.and_two_pow_sub_one_eq_mod (n / 2 ^ 8) 8
  simp only [le16, lo, hi, hLo, hHi, UInt8.toNat_ofNat']
  omega

theorem le16_lt (low high : UInt8) : le16 low high < 2 ^ 16 := by
  have hLow := low.toNat_lt
  have hHigh := high.toNat_lt
  unfold le16
  omega

theorem lo_le16 (low high : UInt8) : lo (le16 low high) = low := by
  have hLow := low.toNat_lt
  have hMod : le16 low high &&& 0xFF = low.toNat := by
    rw [show le16 low high &&& 0xFF = le16 low high % 256 from Nat.and_two_pow_sub_one_eq_mod _ 8]
    unfold le16
    omega
  rw [lo, hMod, UInt8.ofNat_toNat]

theorem hi_le16 (low high : UInt8) : hi (le16 low high) = high := by
  have hLow := low.toNat_lt
  have hHigh := high.toNat_lt
  have hMod : (le16 low high >>> 8) &&& 0xFF = high.toNat := by
    rw [show (le16 low high >>> 8) &&& 0xFF = (le16 low high >>> 8) % 256 from
      Nat.and_two_pow_sub_one_eq_mod _ 8, Nat.shiftRight_eq_div_pow]
    unfold le16
    omega
  rw [hi, hMod, UInt8.ofNat_toNat]

/-! ## Writing into a block -/

/-- A block of memory and the next position to write, a 16-bit variable. -/
structure Writer where
  mem : List UInt8
  count : Nat

namespace Writer

/-- `mem[count] = b; count++`. -/
def put (w : Writer) (b : UInt8) : Option Writer :=
  if w.count < w.mem.length then some ⟨w.mem.set w.count b, (w.count + 1) % 2 ^ 16⟩ else none

/-- One byte after the other. -/
def puts (w : Writer) : List UInt8 → Option Writer
  | [] => some w
  | b :: bs => (w.put b).bind fun w => w.puts bs

/-- `memcpy(&mem[count], bs, n); count += n`. -/
def copy (w : Writer) (bs : List UInt8) : Option Writer :=
  if w.count + bs.length ≤ w.mem.length then
    some ⟨w.mem.take w.count ++ bs ++ w.mem.drop (w.count + bs.length),
      (w.count + bs.length) % 2 ^ 16⟩
  else none

/-- A block of which the first bytes are written, `room` zero bytes being left. -/
def filled (written : List UInt8) (room : Nat) : Writer :=
  ⟨written ++ List.replicate room 0, written.length⟩

theorem put_filled {written : List UInt8} {room : Nat} {b : UInt8} (hRoom : 0 < room)
    (hCount : written.length + 1 < 2 ^ 16) :
    (filled written room).put b = some (filled (written ++ [b]) (room - 1)) := by
  obtain ⟨room, rfl⟩ := Nat.exists_eq_succ_of_ne_zero (Nat.pos_iff_ne_zero.mp hRoom)
  have hMod : (written.length + 1) % 65536 = written.length + 1 := Nat.mod_eq_of_lt hCount
  simp [filled, put, List.replicate_succ, hMod]

theorem puts_filled {bs written : List UInt8} {room : Nat} (hRoom : bs.length ≤ room)
    (hCount : written.length + bs.length < 2 ^ 16) :
    (filled written room).puts bs = some (filled (written ++ bs) (room - bs.length)) := by
  induction bs generalizing written room with
  | nil => simp [puts]
  | cons b bs ih =>
    simp only [List.length_cons] at hRoom hCount
    simp only [puts, put_filled (b := b) (show 0 < room by omega)
      (show written.length + 1 < 2 ^ 16 by omega), Option.bind_some]
    rw [ih (by omega) (by simp; omega)]
    simp only [List.append_assoc, List.singleton_append, List.length_cons, Option.some.injEq]
    congr 1
    omega

theorem copy_filled {bs written : List UInt8} {room : Nat} (hRoom : bs.length ≤ room)
    (hCount : written.length + bs.length < 2 ^ 16) :
    (filled written room).copy bs = some (filled (written ++ bs) (room - bs.length)) := by
  simp only [filled, copy, List.length_append, List.length_replicate,
    show written.length + bs.length ≤ written.length + room by omega, if_true,
    List.take_left', Nat.mod_eq_of_lt hCount, Option.some.injEq, Writer.mk.injEq, and_true]
  rw [List.drop_append, List.drop_eq_nil_of_le (by omega)]
  simp

/-- The bytes after the last copy into a block that it fills. -/
theorem copy_filled_mem (written bs : List UInt8) :
    ((filled written bs.length).copy bs).map mem = some (written ++ bs) := by
  simp [filled, copy, List.take_left']

end Writer

end EspHosted.Bytes
