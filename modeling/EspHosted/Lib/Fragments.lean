import Mathlib.Data.List.Basic

/-!
# Fragmentation and reassembly

A message is cut into pieces of a fixed size; every piece but the last is marked "more
follows". A receiver appends pieces and takes a piece without the mark as the end of a
message. Nothing here depends on what the elements are.

* `fragments_split`: what the pieces of a message look like;
* `collect_flatMap`: a receiver that gets all pieces of a sequence of messages gets the
  messages;
* `collect_terminated`: in the middle of such a sequence, what was appended so far is the
  beginning of the next message.
-/

namespace EspHosted.Fragments

variable {α : Type*}

/-- The pieces of `l`, with a bound on their number. -/
def fragmentsAux (size : Nat) : Nat → List α → List (List α × Bool)
  | 0, l => [(l, false)]
  | fuel + 1, l =>
    if size < l.length then (l.take size, true) :: fragmentsAux size fuel (l.drop size)
    else [(l, false)]

/-- The pieces of `l` of at most `size` elements, each with whether more follow. -/
def fragments (size : Nat) (l : List α) : List (List α × Bool) :=
  fragmentsAux size l.length l

/-- The pieces of `l` are `init`, all of them full and marked, and then `last`. -/
structure IsSplit (size : Nat) (l : List α) (init : List (List α)) (last : List α) : Prop where
  whole : init.flatten ++ last = l
  full : ∀ piece ∈ init, piece.length = size
  last_le : last.length ≤ size
  last_ne : l ≠ [] → last ≠ []

theorem fragmentsAux_split {size : Nat} (hSize : 0 < size) {fuel : Nat} {l : List α}
    (hFuel : l.length ≤ fuel + size) :
    ∃ init last, fragmentsAux size fuel l = init.map (·, true) ++ [(last, false)] ∧
      IsSplit size l init last := by
  induction fuel generalizing l with
  | zero => exact ⟨[], l, rfl, rfl, by simp, by omega, id⟩
  | succ fuel ih =>
    simp only [fragmentsAux]
    split
    · rename_i hLong
      obtain ⟨init, last, hEq, hSplit⟩ := ih (l := l.drop size) (by simp; omega)
      refine ⟨l.take size :: init, last, by simp [hEq], ?_, ?_, hSplit.last_le, ?_⟩
      · simp [hSplit.whole]
      · intro piece hPiece
        rcases List.mem_cons.mp hPiece with rfl | hPiece
        · simp; omega
        · exact hSplit.full piece hPiece
      · intro _
        exact hSplit.last_ne (by simpa using hLong)
    · rename_i hShort
      exact ⟨[], l, rfl, rfl, by simp, by omega, id⟩

theorem fragments_split {size : Nat} (hSize : 0 < size) (l : List α) :
    ∃ init last, fragments size l = init.map (·, true) ++ [(last, false)] ∧
      IsSplit size l init last :=
  fragmentsAux_split hSize (Nat.le_add_right _ _)

/-- Fuel that suffices gives the same pieces, however much of it there is. -/
theorem fragmentsAux_fuel {size : Nat} (hSize : 0 < size) {fuel fuel' : Nat} {l : List α}
    (hFuel : l.length ≤ fuel + size) (hFuel' : l.length ≤ fuel' + size) :
    fragmentsAux size fuel l = fragmentsAux size fuel' l := by
  induction fuel generalizing l fuel' with
  | zero =>
    cases fuel' with
    | zero => rfl
    | succ fuel' => rw [fragmentsAux, fragmentsAux, if_neg (by omega)]
  | succ fuel ih =>
    cases fuel' with
    | zero => rw [fragmentsAux, fragmentsAux, if_neg (by omega)]
    | succ fuel' =>
      simp only [fragmentsAux]
      have hRest : fragmentsAux size fuel (l.drop size) = fragmentsAux size fuel' (l.drop size) :=
        ih (by simp; omega) (by simp; omega)
      rw [hRest]

theorem fragmentsAux_eq {size : Nat} (hSize : 0 < size) {fuel : Nat} {l : List α}
    (hFuel : l.length ≤ fuel + size) : fragmentsAux size fuel l = fragments size l :=
  fragmentsAux_fuel hSize hFuel (Nat.le_add_right _ _)

theorem ne_nil_of_mem_fragments {size : Nat} (hSize : 0 < size) {l : List α} (hNe : l ≠ [])
    {piece : List α × Bool} (h : piece ∈ fragments size l) : piece.1 ≠ [] := by
  obtain ⟨init, last, hEq, hSplit⟩ := fragments_split hSize l
  rw [hEq, List.mem_append] at h
  rcases h with h | h
  · obtain ⟨p, hp, rfl⟩ := List.mem_map.mp h
    have hFull := hSplit.full p hp
    show p ≠ []
    exact List.ne_nil_of_length_pos (by omega)
  · rw [List.mem_singleton] at h
    subst h
    exact hSplit.last_ne hNe

/-! ## Reassembly -/

/-- The messages that a receiver makes of a sequence of pieces, after `acc`. -/
def collect (acc : List α) : List (List α × Bool) → List (List α)
  | [] => []
  | (piece, true) :: rest => collect (acc ++ piece) rest
  | (piece, false) :: rest => (acc ++ piece) :: collect [] rest

theorem collect_marked (acc : List α) (init : List (List α)) (rest : List (List α × Bool)) :
    collect acc (init.map (·, true) ++ rest) = collect (acc ++ init.flatten) rest := by
  induction init generalizing acc with
  | nil => simp
  | cons piece init ih => simp [collect, ih, List.append_assoc]

theorem collect_fragments {size : Nat} (hSize : 0 < size) (l : List α)
    (rest : List (List α × Bool)) :
    collect [] (fragments size l ++ rest) = l :: collect [] rest := by
  obtain ⟨init, last, hEq, hSplit⟩ := fragments_split hSize l
  rw [hEq, List.append_assoc, collect_marked]
  simp [collect, hSplit.whole]

theorem collect_flatMap {size : Nat} (hSize : 0 < size) (ls : List (List α)) :
    collect [] (ls.flatMap (fragments size)) = ls := by
  induction ls with
  | nil => rfl
  | cons l ls ih => rw [List.flatMap_cons, collect_fragments hSize, ih]

/-- The sequence does not end inside a message. -/
def Terminated (pieces : List (List α × Bool)) : Prop :=
  ∀ piece ∈ pieces.getLast?, piece.2 = false

theorem Terminated.tail {piece : List α × Bool} {rest : List (List α × Bool)}
    (h : Terminated (piece :: rest)) : Terminated rest := by
  intro p hp
  cases rest with
  | nil => cases hp
  | cons q rest => exact h p (by simpa [List.getLast?_cons_cons] using hp)

theorem terminated_flatMap {size : Nat} (hSize : 0 < size) (ls : List (List α)) :
    Terminated (ls.flatMap (fragments size)) := by
  rcases List.eq_nil_or_concat ls with rfl | ⟨ls, l, rfl⟩
  · rintro p ⟨⟩
  · obtain ⟨init, last, hEq, -⟩ := fragments_split hSize l
    intro p hp
    simp only [List.concat_eq_append, List.flatMap_append, List.flatMap_cons,
      List.flatMap_nil, List.append_nil, hEq, ← List.append_assoc, List.getLast?_concat] at hp
    cases hp
    rfl

/-- The pieces appended so far, with the next one, begin the next message. -/
theorem collect_terminated (acc : List α) {piece : List α} {more : Bool}
    {rest : List (List α × Bool)}
    (h : Terminated ((piece, more) :: rest)) :
    ∃ tail msgs, collect acc ((piece, more) :: rest) = (acc ++ piece ++ tail) :: msgs := by
  induction rest generalizing acc piece more with
  | nil =>
    have hMore : more = false := h (piece, more) rfl
    subst hMore
    exact ⟨[], [], by simp [collect]⟩
  | cons next rest ih =>
    cases more with
    | false => exact ⟨[], collect [] (next :: rest), by simp [collect]⟩
    | true =>
      obtain ⟨p, m⟩ := next
      obtain ⟨tail, msgs, hEq⟩ := ih (acc ++ piece) h.tail
      exact ⟨p ++ tail, msgs, by rw [collect, hEq]; simp⟩

end EspHosted.Fragments
