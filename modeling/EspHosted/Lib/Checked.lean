import Mathlib.Data.List.TakeWhile
import Mathlib.Tactic.Common

/-!
# Programs over checked pointers

A C function that walks through a decoded message reads pointers that may be `NULL` or may
point to an object of another type, leaves early through a `goto fail`, and copies bytes into
arrays of fixed size. Here such a function is a `Prog`: it ends in a value, in `fail`, or in a
fault that says which access went wrong. Copies do not fault. They are noted in a log with
the sizes of the two sides, so that a statement can ask for every one of them.

* `wp` is the weakest precondition with one postcondition for each way to end, and has a
  rewrite rule for every operation.
* `Safe` says that a run ends without a fault, `InBounds` that moreover every access it noted
  is `Ok`.
* `Spares` says that a part of the store is not touched, and has a rule for every operation too.
* `takeEach_eq` computes a loop over the first `n` elements of a list whose body always
  completes.
-/

namespace EspHosted.Checked

/-- A pointer as the program finds it: `NULL`, to an object of another type than the one it
is read as, or to an object. -/
inductive Ptr (α : Type)
  | null
  | other
  | obj (a : α)

def Ptr.isNull {α : Type} : Ptr α → Bool
  | .null => true
  | .other => false
  | .obj _ => false

inductive Fault
  | null
  | other
  | outside
  | endless
  | abort
  deriving DecidableEq

/-- An access to memory that the program does not check: a copy of `len` bytes out of `src`
bytes into an array of `room` bytes, a search for the terminating zero of `text` in a zeroed
array of `room` bytes, and a list of `copied` elements taken out of `present` ones, when
`claimed` were announced and there is room for `room`. -/
inductive Access
  | copy (room src len : Nat)
  | strlen (room : Nat) (text : List UInt8)
  | list (claimed present room copied : Nat)

def Access.Ok : Access → Prop
  | .copy room src len => len ≤ room ∧ len ≤ src
  | .strlen room text => text.length < room ∨ 0 ∈ text
  | .list claimed present room copied => copied = min claimed (min present room)

instance (a : Access) : Decidable a.Ok := by
  cases a <;> unfold Access.Ok <;> infer_instance

/-- The length that the search for the terminating zero finds. -/
def strlen (text : List UInt8) : Nat := (text.takeWhile (· ≠ 0)).length

/-- A search that stays inside finds a zero inside. -/
theorem strlen_lt {room : Nat} {text : List UInt8} (hRoom : text.length ≤ room)
    (hOk : (Access.strlen room text).Ok) : strlen text < room := by
  have hLe : strlen text ≤ text.length := (List.takeWhile_prefix _).length_le
  rcases hOk with hShort | hZero
  · omega
  · have hNe : strlen text ≠ text.length := by
      intro hEq
      have hAll := (List.takeWhile_prefix (p := (· ≠ 0)) (l := text)).eq_of_length hEq
      rw [List.takeWhile_eq_self_iff] at hAll
      simpa using hAll 0 hZero
    omega

structure Mem (σ : Type) where
  store : σ
  log : List Access := []

/-- Every access noted so far stayed inside. -/
def Mem.Good {σ : Type} (m : Mem σ) : Prop := ∀ a ∈ m.log, a.Ok

instance {σ : Type} (m : Mem σ) : Decidable m.Good := by
  unfold Mem.Good
  infer_instance

/-- Nothing was noted yet. -/
theorem good_new {σ : Type} {s : σ} : Mem.Good { store := s } := by
  intro a ha
  cases ha

def Mem.put {σ : Type} (m : Mem σ) (s : σ) : Mem σ := { m with store := s }

def Mem.note {σ : Type} (m : Mem σ) (as : List Access) : Mem σ := { m with log := m.log ++ as }

@[simp] theorem Mem.put_store {σ : Type} (m : Mem σ) (s : σ) : (m.put s).store = s := rfl

@[simp] theorem Mem.put_log {σ : Type} (m : Mem σ) (s : σ) : (m.put s).log = m.log := rfl

@[simp] theorem Mem.good_put {σ : Type} (m : Mem σ) (s : σ) : (m.put s).Good ↔ m.Good := Iff.rfl

@[simp] theorem Mem.note_store {σ : Type} (m : Mem σ) (as : List Access) :
    (m.note as).store = m.store := rfl

@[simp] theorem Mem.note_nil {σ : Type} (m : Mem σ) : m.note [] = m := by
  simp only [Mem.note, List.append_nil]

@[simp] theorem Mem.note_note {σ : Type} (m : Mem σ) (as bs : List Access) :
    (m.note as).note bs = m.note (as ++ bs) := by
  simp only [Mem.note, List.append_assoc]

@[simp] theorem Mem.good_note {σ : Type} (m : Mem σ) (as : List Access) :
    (m.note as).Good ↔ m.Good ∧ ∀ a ∈ as, a.Ok := by
  simp only [Mem.Good, Mem.note, List.mem_append, or_imp, forall_and]

inductive Outcome (σ α : Type)
  | fault (f : Fault) (m : Mem σ)
  | fail (m : Mem σ)
  | done (a : α) (m : Mem σ)

def Prog (σ α : Type) : Type := Mem σ → Outcome σ α

namespace Prog

variable {σ α β : Type}

def bind (p : Prog σ α) (k : α → Prog σ β) : Prog σ β := fun m =>
  match p m with
  | .fault f m => .fault f m
  | .fail m => .fail m
  | .done a m => k a m

instance : Monad (Prog σ) where
  pure a := fun m => .done a m
  bind := bind

/-! ## Operations -/

/-- `goto fail`. -/
def fail : Prog σ α := fun m => .fail m

def fault (f : Fault) : Prog σ α := fun m => .fault f m

def get : Prog σ σ := fun m => .done m.store m

def modify (f : σ → σ) : Prog σ Unit := fun m => .done () (m.put (f m.store))

/-- Leave through `goto fail` unless `c` holds. -/
def need (c : Bool) : Prog σ Unit := if c then pure () else fail

/-- Go on with the object that `p` points to. -/
def deref : Ptr α → Prog σ α
  | .null => fault .null
  | .other => fault .other
  | .obj a => pure a

/-- Leave through `goto fail` if `p` is `NULL`, and go on with its object. -/
def nonNull (p : Ptr α) : Prog σ α := do
  need (!p.isNull)
  deref p

/-- Go on with an object that is there or whose pointer is `NULL`. -/
def load : Option α → Prog σ α
  | none => fault .null
  | some a => pure a

def note (a : Access) : Prog σ Unit := fun m => .done () (m.note [a])

/-- Copy `len` bytes of `src` into an array of `room` bytes; what the array holds afterwards. -/
def memcpy (room : Nat) (src : List UInt8) (len : Nat) : Prog σ (List UInt8) := do
  note (.copy room src.length len)
  pure ((src.take len).take room)

/-- Run `p`; whether it came to its end or left through `fail`. -/
def attempt (p : Prog σ Unit) : Prog σ Bool := fun m =>
  match p m with
  | .fault f m => .fault f m
  | .fail m => .done false m
  | .done () m => .done true m

/-- Run `f` on the first `n` elements of `xs`. -/
def takeEach (f : α → Prog σ β) : Nat → List α → Prog σ (List β)
  | 0, _ => pure []
  | _ + 1, [] => fault .outside
  | n + 1, x :: xs => do
    let y ← f x
    let ys ← takeEach f n xs
    pure (y :: ys)

theorem bind_done {p : Prog σ α} {k : α → Prog σ β} {m m' : Mem σ} {a : α}
    (h : p m = .done a m') : (p >>= k) m = k a m' := by
  change bind p k m = _
  rw [bind, h]

theorem load_some_bind (a : α) (k : α → Prog σ β) : (load (some a) >>= k) = k a := rfl

/-! ## Weakest preconditions -/

/-- What must hold before `p` so that `F` holds after a fault, `E` after `fail`, and `Q` at the
end. -/
def wp (p : Prog σ α) (F : Fault → Mem σ → Prop) (E : Mem σ → Prop) (Q : α → Mem σ → Prop)
    (m : Mem σ) : Prop :=
  match p m with
  | .fault f m => F f m
  | .fail m => E m
  | .done a m => Q a m

section Rules

variable {F : Fault → Mem σ → Prop} {E : Mem σ → Prop} {m : Mem σ}

@[simp] theorem wp_pure {Q : α → Mem σ → Prop} (a : α) :
    wp (pure a : Prog σ α) F E Q = Q a := rfl

@[simp] theorem wp_bind {Q : β → Mem σ → Prop} (p : Prog σ α) (k : α → Prog σ β) :
    wp (p >>= k) F E Q = wp p F E fun a => wp (k a) F E Q := by
  funext m
  change wp (bind p k) F E Q m = _
  unfold wp bind
  cases p m <;> rfl

@[simp] theorem wp_fail {Q : α → Mem σ → Prop} : wp (fail : Prog σ α) F E Q = E := rfl

@[simp] theorem wp_fault {Q : α → Mem σ → Prop} (f : Fault) :
    wp (fault f : Prog σ α) F E Q = F f := rfl

@[simp] theorem wp_get {Q : σ → Mem σ → Prop} : wp get F E Q = fun m => Q m.store m := rfl

@[simp] theorem wp_modify {Q : Unit → Mem σ → Prop} (f : σ → σ) :
    wp (modify f) F E Q = fun m => Q () (m.put (f m.store)) := rfl

@[simp] theorem wp_note {Q : Unit → Mem σ → Prop} (a : Access) :
    wp (note a) F E Q = fun m => Q () (m.note [a]) := rfl

@[simp] theorem wp_need {Q : Unit → Mem σ → Prop} (c : Bool) :
    wp (need c) F E Q = fun m => if c then Q () m else E m := by
  unfold need
  cases c <;> rfl

@[simp] theorem wp_deref_null {Q : α → Mem σ → Prop} :
    wp (deref (.null : Ptr α)) F E Q = F .null := rfl

@[simp] theorem wp_deref_other {Q : α → Mem σ → Prop} :
    wp (deref (.other : Ptr α)) F E Q = F .other := rfl

@[simp] theorem wp_deref_obj {Q : α → Mem σ → Prop} (a : α) :
    wp (deref (.obj a)) F E Q = Q a := rfl

@[simp] theorem wp_nonNull_null {Q : α → Mem σ → Prop} :
    wp (nonNull (.null : Ptr α)) F E Q = E := rfl

@[simp] theorem wp_nonNull_other {Q : α → Mem σ → Prop} :
    wp (nonNull (.other : Ptr α)) F E Q = F .other := rfl

@[simp] theorem wp_nonNull_obj {Q : α → Mem σ → Prop} (a : α) :
    wp (nonNull (.obj a)) F E Q = Q a := rfl

@[simp] theorem wp_load_none {Q : α → Mem σ → Prop} :
    wp (load (none : Option α)) F E Q = F .null := rfl

@[simp] theorem wp_load_some {Q : α → Mem σ → Prop} (a : α) :
    wp (load (some a)) F E Q = Q a := rfl

@[simp] theorem wp_memcpy {Q : List UInt8 → Mem σ → Prop} (room : Nat) (src : List UInt8)
    (len : Nat) :
    wp (memcpy room src len) F E Q =
      fun m => Q ((src.take len).take room) (m.note [.copy room src.length len]) := rfl

@[simp] theorem wp_attempt {Q : Bool → Mem σ → Prop} (p : Prog σ Unit) :
    wp (attempt p) F E Q = wp p F (Q false) fun _ => Q true := by
  funext m
  unfold wp attempt
  cases p m <;> rfl

@[simp] theorem wp_ite {Q : α → Mem σ → Prop} (c : Prop) [Decidable c] (p q : Prog σ α) :
    wp (if c then p else q) F E Q = fun m => if c then wp p F E Q m else wp q F E Q m := by
  funext m
  split <;> rfl

/-- A run is judged by its outcome alone. -/
theorem wp_of_eq {Q : α → Mem σ → Prop} {p : Prog σ α} {a : α} {m' : Mem σ}
    (h : p m = .done a m') : wp p F E Q m ↔ Q a m' := by
  unfold wp
  rw [h]

end Rules

theorem wp_mono {p : Prog σ α} {F F' : Fault → Mem σ → Prop} {E E' : Mem σ → Prop}
    {Q Q' : α → Mem σ → Prop} {m : Mem σ} (hF : ∀ f m, F f m → F' f m) (hE : ∀ m, E m → E' m)
    (hQ : ∀ a m, Q a m → Q' a m) (h : wp p F E Q m) : wp p F' E' Q' m := by
  unfold wp at h ⊢
  split
  · rename_i hp
    rw [hp] at h
    exact hF _ _ h
  · rename_i hp
    rw [hp] at h
    exact hE _ h
  · rename_i hp
    rw [hp] at h
    exact hQ _ _ h

theorem wp_congr {p : Prog σ α} {F : Fault → Mem σ → Prop} {E E' : Mem σ → Prop}
    {Q Q' : α → Mem σ → Prop} {m : Mem σ} (hE : ∀ m, E m ↔ E' m) (hQ : ∀ a m, Q a m ↔ Q' a m) :
    wp p F E Q m ↔ wp p F E' Q' m :=
  ⟨wp_mono (fun _ _ h => h) (fun m => (hE m).mp) fun a m => (hQ a m).mp,
    wp_mono (fun _ _ h => h) (fun m => (hE m).mpr) fun a m => (hQ a m).mpr⟩

theorem wp_and {p : Prog σ α} {F F' : Fault → Mem σ → Prop} {E E' : Mem σ → Prop}
    {Q Q' : α → Mem σ → Prop} {m : Mem σ} (h : wp p F E Q m) (h' : wp p F' E' Q' m) :
    wp p (fun f m => F f m ∧ F' f m) (fun m => E m ∧ E' m) (fun a m => Q a m ∧ Q' a m) m := by
  unfold wp at h h' ⊢
  cases hp : p m <;>
  · rw [hp] at h h'
    exact ⟨h, h'⟩

/-! ## Runs without a fault, and runs that stay inside -/

def Safe (p : Prog σ α) (m : Mem σ) : Prop :=
  wp p (fun _ _ => False) (fun _ => True) (fun _ _ => True) m

/-- Moreover every noted access is inside. -/
def InBounds (p : Prog σ α) (m : Mem σ) : Prop :=
  wp p (fun _ _ => False) Mem.Good (fun _ => Mem.Good) m

instance (p : Prog σ α) (m : Mem σ) : Decidable (Safe p m) := by
  unfold Safe wp
  cases p m <;> infer_instance

instance (p : Prog σ α) (m : Mem σ) : Decidable (InBounds p m) := by
  unfold InBounds wp
  cases p m <;> infer_instance

/-! ## A loop over the first elements of a list -/

variable {f : α → Prog σ β} {v : α → β} {a : α → List Access}

/-- A loop whose body always completes reads `n` elements, or all of them and one more. -/
theorem takeEach_eq (hf : ∀ x m, f x m = .done (v x) (m.note (a x))) (n : Nat) (xs : List α)
    (m : Mem σ) :
    takeEach f n xs m = if n ≤ xs.length
      then .done ((xs.take n).map v) (m.note ((xs.take n).flatMap a))
      else .fault .outside (m.note (xs.flatMap a)) := by
  induction n generalizing xs m with
  | zero =>
    rw [List.take_zero, List.flatMap_nil, Mem.note_nil, if_pos (Nat.zero_le _)]
    rfl
  | succ n ih =>
    cases xs with
    | nil =>
      rw [List.flatMap_nil, Mem.note_nil,
        if_neg (show ¬n + 1 ≤ ([] : List α).length from Nat.not_succ_le_zero n)]
      rfl
    | cons x xs =>
      have hStep : takeEach f (n + 1) (x :: xs) m =
          bind (takeEach f n xs) (fun ys => pure (v x :: ys)) (m.note (a x)) := by
        change bind (f x) (fun y => bind (takeEach f n xs) (fun ys => pure (y :: ys))) m = _
        rw [bind, hf x m]
      rw [hStep, bind, ih]
      by_cases hn : n ≤ xs.length
      · rw [if_pos hn, if_pos (by simpa using hn)]
        simp only [Mem.note_note, List.take_succ_cons, List.map_cons, List.flatMap_cons]
        rfl
      · rw [if_neg hn, if_neg (by simpa using hn)]
        simp only [Mem.note_note, List.flatMap_cons]

/-- Such a loop when only the length of its result matters. -/
theorem wp_takeEach {F : Fault → Mem σ → Prop} {E : Mem σ → Prop} {Q : List β → Mem σ → Prop}
    {R : Mem σ → Prop} {n : Nat} {xs : List α} {m : Mem σ}
    (hf : ∀ x m, f x m = .done (v x) (m.note (a x)))
    (hQ : ∀ ys m, ys.length = n → (Q ys m ↔ R m)) :
    wp (takeEach f n xs) F E Q m ↔
      if n ≤ xs.length then R (m.note ((xs.take n).flatMap a))
      else F .outside (m.note (xs.flatMap a)) := by
  unfold wp
  rw [takeEach_eq hf]
  by_cases hn : n ≤ xs.length
  · rw [if_pos hn, if_pos hn]
    exact hQ _ _ (by rw [List.length_map, List.length_take, Nat.min_eq_left hn])
  · rw [if_neg hn, if_neg hn]

/-! ## What a program leaves alone -/

/-- However `p` ends, the view `v` of the store is what it was. -/
def Spares {β : Type} (v : σ → β) (p : Prog σ α) : Prop :=
  ∀ m, wp p (fun _ m' => v m'.store = v m.store) (fun m' => v m'.store = v m.store)
    (fun _ m' => v m'.store = v m.store) m

section Spares

variable {γ δ : Type} {v : σ → γ}

theorem Spares.bind {p : Prog σ α} {k : α → Prog σ β} (hp : Spares v p)
    (hk : ∀ a, Spares v (k a)) : Spares v (p >>= k) := by
  intro m
  rw [wp_bind]
  refine wp_mono (fun _ _ h => h) (fun _ h => h) (fun a m' hm' => ?_) (hp m)
  exact wp_mono (fun _ _ h => h.trans hm') (fun _ h => h.trans hm') (fun _ _ h => h.trans hm')
    (hk a m')

theorem Spares.pure (a : α) : Spares v (Pure.pure a : Prog σ α) := fun _ => rfl

theorem Spares.modify {f : σ → σ} (hf : ∀ s, v (f s) = v s) : Spares v (modify f) :=
  fun m => hf m.store

theorem Spares.note (a : Access) : Spares v (note a : Prog σ Unit) := fun _ => rfl

theorem Spares.fail : Spares v (fail : Prog σ α) := fun _ => rfl

theorem Spares.fault (f : Fault) : Spares v (fault f : Prog σ α) := fun _ => rfl

theorem Spares.need (c : Bool) : Spares v (need c : Prog σ Unit) := by
  intro m
  cases c <;> rfl

theorem Spares.load (o : Option α) : Spares v (load o : Prog σ α) := by
  intro m
  cases o <;> rfl

theorem Spares.deref (p : Ptr α) : Spares v (deref p : Prog σ α) := by
  intro m
  cases p <;> rfl

theorem Spares.attempt {p : Prog σ Unit} (hp : Spares v p) : Spares v (attempt p) := by
  intro m
  rw [wp_attempt]
  exact hp m

theorem Spares.nonNull (p : Ptr α) : Spares v (nonNull p : Prog σ α) :=
  (Spares.need _).bind fun _ => Spares.deref p

theorem Spares.memcpy (room : Nat) (src : List UInt8) (len : Nat) :
    Spares v (memcpy room src len : Prog σ (List UInt8)) :=
  (Spares.note _).bind fun _ => Spares.pure _

theorem Spares.ite {c : Prop} [Decidable c] {p q : Prog σ α} (hp : Spares v p)
    (hq : Spares v q) : Spares v (if c then p else q) := by
  split
  · exact hp
  · exact hq

theorem Spares.takeEach {f : α → Prog σ β} (hf : ∀ x, Spares v (f x)) (n : Nat) (xs : List α) :
    Spares v (takeEach f n xs) := by
  induction n generalizing xs with
  | zero => exact Spares.pure []
  | succ n ih =>
    cases xs with
    | nil => exact Spares.fault .outside
    | cons x xs => exact (hf x).bind fun y => (ih xs).bind fun ys => Spares.pure (y :: ys)

end Spares

end Prog

end EspHosted.Checked
