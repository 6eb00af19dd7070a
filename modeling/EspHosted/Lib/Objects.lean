import Mathlib.Data.List.Perm.Basic
import Mathlib.Data.List.Nodup

/-!
# Objects that are created and destroyed

Objects are numbered in the order of their creation. `alive` has the ones that exist, and `stale`
says that a number was used for which there is no object any more.

* `Owns o hs`: `hs` are the objects that exist, each once, and none was used after its end;
* `Owns.create`, `Owns.destroy`: what creating and destroying does to them.
-/

namespace EspHosted

structure Objects where
  next : Nat
  alive : List Nat
  stale : Bool

namespace Objects

def none : Objects := ⟨0, [], false⟩

/-- The new object is `o.next`. -/
def create (o : Objects) : Objects := { o with next := o.next + 1, alive := o.next :: o.alive }

def destroy (o : Objects) (x : Nat) : Objects :=
  if x ∈ o.alive then { o with alive := o.alive.erase x } else { o with stale := true }

/-- The owners of the objects hold each of them once. -/
structure Owns (o : Objects) (hs : List Nat) : Prop where
  alive : o.alive.Perm hs
  nodup : hs.Nodup
  next : ∀ x ∈ hs, x < o.next
  fresh : o.stale = false

namespace Owns

variable {o : Objects} {hs hs' : List Nat}

theorem none : Objects.none.Owns [] where
  alive := List.Perm.refl _
  nodup := List.nodup_nil
  next := nofun
  fresh := rfl

theorem perm (h : o.Owns hs) (hPerm : hs.Perm hs') : o.Owns hs' where
  alive := h.alive.trans hPerm
  nodup := hPerm.nodup_iff.mp h.nodup
  next := fun x hx => h.next x (hPerm.mem_iff.mpr hx)
  fresh := h.fresh

theorem create (h : o.Owns hs) : o.create.Owns (o.next :: hs) where
  alive := List.Perm.cons _ h.alive
  nodup := by
    refine List.nodup_cons.mpr ⟨?_, h.nodup⟩
    intro hMem
    exact absurd (h.next _ hMem) (Nat.lt_irrefl _)
  next := by
    intro x hx
    show x < o.next + 1
    rcases List.mem_cons.mp hx with rfl | hOld
    · exact Nat.lt_succ_self _
    · have := h.next x hOld
      omega
  fresh := h.fresh

theorem destroy {x : Nat} (h : o.Owns (x :: hs)) : (o.destroy x).Owns hs := by
  have hMem : x ∈ o.alive := h.alive.mem_iff.mpr List.mem_cons_self
  unfold Objects.destroy
  rw [if_pos hMem]
  refine ⟨?_, (List.nodup_cons.mp h.nodup).2, ?_, h.fresh⟩
  · have hErase := h.alive.erase x
    rwa [List.erase_cons_head] at hErase
  · exact fun y hy => h.next y (List.mem_cons_of_mem x hy)

theorem mem_iff (h : o.Owns hs) {x : Nat} : x ∈ o.alive ↔ x ∈ hs := h.alive.mem_iff

end Owns

end Objects

end EspHosted
