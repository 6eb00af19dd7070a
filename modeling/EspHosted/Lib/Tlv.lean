import EspHosted.Lib.Reads

/-!
# Walking records of tag, length and value

A loop over records counts the bytes that are left in an 8-bit variable and ends when the count is
zero. What it does with a record depends on the tag alone, and it does not look at the length
before it reads the value. So a length that is more than what is left makes the count wrap
around, and a value that is cut short is read all the same.

* `walk_encode`: a walk over encoded records hands every value to the handler and ends exactly
  behind the last one.
* `Complete`: the inputs all records of which are complete, up to one where the handler stops.
* `proper_iff`: the walk ends, reads inside and ends at the end on these inputs and on no others.
-/

namespace EspHosted.Tlv

open Reads

/-- What a loop does with a record: it reads `need` bytes of the value and changes its state, or
stops for good. -/
structure Handler (σ : Type) where
  need : UInt8 → Nat
  act : UInt8 → Memory → σ → Option σ
  act_congr : ∀ (tag : UInt8) (value value' : Memory) (st : σ), Agree (need tag) value value' →
    act tag value st = act tag value' st

/-- The variables of the loop, and what it has read. -/
structure Walk (σ : Type) where
  pos : Nat
  left : Nat
  reads : List Range
  state : σ

variable {σ : Type}

/-- The value of the record at a position. -/
def valueAt (mem : Memory) (pos : Nat) : Memory := fun i => mem (pos + 2 + i)

/-- The tag, the length and the value are read. -/
def Walk.look (h : Handler σ) (mem : Memory) (w : Walk σ) : Walk σ :=
  { w with reads := w.reads ++ [⟨w.pos, 2⟩, ⟨w.pos + 2, h.need (mem w.pos)⟩] }

/-- `pos += tag_len + 2; len_left -= tag_len + 2`. -/
def Walk.advance (w : Walk σ) (tagLen : UInt8) (st : σ) : Walk σ :=
  { w with
    pos := w.pos + (tagLen.toNat + 2)
    left := (w.left + 512 - (tagLen.toNat + 2)) % 256
    state := st }

/-- `while (len_left)`, at most `fuel` times. The result says whether the loop came to its end. -/
def walk (h : Handler σ) (mem : Memory) : Nat → Walk σ → Option (Walk σ × Bool)
  | 0, _ => none
  | fuel + 1, w =>
    if w.left = 0 then some (w, true)
    else
      match h.act (mem w.pos) (valueAt mem w.pos) w.state with
      | none => some (w.look h mem, false)
      | some st => walk h mem fuel ((w.look h mem).advance (mem (w.pos + 1)) st)

def start (len : Nat) (st : σ) : Walk σ := ⟨0, len, [], st⟩

/-- The walk over `len` bytes ends, reads nothing outside, and does not leave the loop before or
behind the end. -/
def Proper (h : Handler σ) (mem : Memory) (len : Nat) (st : σ) : Prop :=
  ∃ fuel w done, walk h mem fuel (start len st) = some (w, done) ∧
    (∀ r ∈ w.reads, r.Inside len) ∧ (done = true → w.pos = len)

/-- Complete records. The value of a record may go on into the next one. -/
inductive Complete (h : Handler σ) : σ → List UInt8 → Prop
  | done {st : σ} : Complete h st []
  | stop {st : σ} {tag tagLen : UInt8} {rest : List UInt8} : h.need tag ≤ rest.length →
    h.act tag (load rest fun _ => 0) st = none → Complete h st (tag :: tagLen :: rest)
  | record {st st' : σ} {tag tagLen : UInt8} {value rest : List UInt8} :
    value.length = tagLen.toNat → h.need tag ≤ (value ++ rest).length →
    h.act tag (load (value ++ rest) fun _ => 0) st = some st' → Complete h st' rest →
    Complete h st (tag :: tagLen :: (value ++ rest))

/-! ## One record -/

variable {h : Handler σ} {mem behind : Memory} {w w' : Walk σ} {done : Bool} {fuel : Nat}

/-- From the position on, the memory holds `bytes`. -/
def Holds (mem : Memory) (pos : Nat) (bytes : List UInt8) (behind : Memory) : Prop :=
  ∀ i, mem (pos + i) = load bytes behind i

theorem Holds.tag {tag tagLen : UInt8} {rest : List UInt8} {pos : Nat}
    (hMem : Holds mem pos (tag :: tagLen :: rest) behind) :
    mem pos = tag ∧ mem (pos + 1) = tagLen ∧ valueAt mem pos = load rest behind := by
  refine ⟨by simpa [load] using hMem 0, by simpa [load] using hMem 1, ?_⟩
  funext i
  have hDrop := congrFun (load_append_drop [tag, tagLen] rest behind) i
  rw [valueAt, Nat.add_assoc, hMem]
  exact hDrop

theorem Holds.drop {tag tagLen : UInt8} {value rest : List UInt8} {pos : Nat}
    (hMem : Holds mem pos (tag :: tagLen :: (value ++ rest)) behind) :
    Holds mem (pos + (value.length + 2)) rest behind := by
  intro i
  have hDrop := congrFun (load_append_drop (tag :: tagLen :: value) rest behind) i
  rw [Nat.add_assoc, hMem]
  exact hDrop

/-- A walk forgets nothing of what was read. -/
theorem reads_of_walk (hWalk : walk h mem fuel w = some (w', done)) :
    ∃ new, w'.reads = w.reads ++ new := by
  induction fuel generalizing w with
  | zero => cases hWalk
  | succ fuel ih =>
    unfold walk at hWalk
    split at hWalk
    · cases hWalk
      exact ⟨[], (List.append_nil _).symm⟩
    · split at hWalk
      · cases hWalk
        exact ⟨_, rfl⟩
      · obtain ⟨new, hReads⟩ := ih hWalk
        exact ⟨_ ++ new, by rw [hReads, ← List.append_assoc]; rfl⟩

/-- A handler that never stops is walked to the end. -/
theorem done_of_walk (hAct : ∀ tag value st, h.act tag value st ≠ none)
    (hWalk : walk h mem fuel w = some (w', done)) : done = true := by
  induction fuel generalizing w with
  | zero => cases hWalk
  | succ fuel ih =>
    unfold walk at hWalk
    split at hWalk
    · cases hWalk
      rfl
    · split at hWalk
      · rename_i hStop
        exact absurd hStop (hAct _ _ _)
      · exact ih hWalk

/-- A walk that has left the input reads outside or ends at another place. -/
theorem outside_of_walk {len : Nat} (hOut : len < w.pos)
    (hWalk : walk h mem fuel w = some (w', done)) (hReads : ∀ r ∈ w'.reads, r.Inside len) :
    done = true ∧ w'.pos ≠ len := by
  cases fuel with
  | zero => cases hWalk
  | succ fuel =>
    unfold walk at hWalk
    split at hWalk
    · cases hWalk
      exact ⟨rfl, by omega⟩
    · have hRead : ⟨w.pos, 2⟩ ∈ w'.reads := by
        split at hWalk
        · cases hWalk
          simp [Walk.look]
        · obtain ⟨new, hNew⟩ := reads_of_walk hWalk
          simp [hNew, Walk.look, Walk.advance]
      have hLe := hReads _ hRead (Nat.succ_ne_zero 1)
      simp only at hLe
      omega

/-- What one record is read for lies inside. -/
theorem look_inside {tag : UInt8} {n : Nat} (hTag : mem w.pos = tag) (hNeed : h.need tag ≤ n)
    {r : Range} (hMem : r ∈ [⟨w.pos, 2⟩, ⟨w.pos + 2, h.need (mem w.pos)⟩]) :
    r.Inside (w.pos + (n + 2)) := by
  rw [hTag] at hMem
  simp only [List.mem_cons, List.not_mem_nil, or_false] at hMem
  intro _
  rcases hMem with rfl | rfl <;> simp only <;> omega

/-! ## Complete records -/

theorem walk_of_complete {st : σ} {bytes : List UInt8} (hComplete : Complete h st bytes)
    (hLen : bytes.length < 256) : ∀ {w : Walk σ}, w.state = st → w.left = bytes.length →
      Holds mem w.pos bytes behind →
      ∃ fuel w' done new, walk h mem fuel w = some (w', done) ∧ w'.reads = w.reads ++ new ∧
        (∀ r ∈ new, r.Inside (w.pos + bytes.length)) ∧
        (done = true → w'.pos = w.pos + bytes.length) := by
  induction hComplete with
  | done =>
    intro w _ hLeft _
    exact ⟨1, w, true, [], if_pos hLeft, (List.append_nil _).symm, nofun, fun _ => rfl⟩
  | @stop st tag tagLen rest hNeed hStop =>
    intro w hState hLeft hMem
    obtain ⟨hTag, -, hValue⟩ := hMem.tag
    have hAct : h.act (mem w.pos) (valueAt mem w.pos) w.state = none := by
      rw [hTag, hValue, hState, ← hStop]
      exact h.act_congr _ _ _ _ ((load_agree rest behind _).mono hNeed)
    refine ⟨1, w.look h mem, false, _, ?_, rfl, fun r => look_inside hTag hNeed, nofun⟩
    simp [walk, hLeft, hAct]
  | @record st st' tag tagLen value rest hTagLen hNeed hAct hRest ih =>
    intro w hState hLeft hMem
    obtain ⟨hTag, hTagLen', hValue⟩ := hMem.tag
    have hAct' : h.act (mem w.pos) (valueAt mem w.pos) w.state = some st' := by
      rw [hTag, hValue, hState, ← hAct]
      exact h.act_congr _ _ _ _ ((load_agree (value ++ rest) behind _).mono hNeed)
    simp only [List.length_cons, List.length_append] at hLen hLeft
    have hLeft' : ((w.look h mem).advance tagLen st').left = rest.length := by
      simp only [Walk.advance, Walk.look, hLeft, ← hTagLen]
      omega
    have hMem' : Holds mem ((w.look h mem).advance tagLen st').pos rest behind := by
      have hDrop := hMem.drop
      rwa [hTagLen] at hDrop
    obtain ⟨fuel, w', done, new, hWalk, hReads, hInside, hPos⟩ := ih (by omega) rfl hLeft' hMem'
    have hEnd : ((w.look h mem).advance tagLen st').pos + rest.length =
        w.pos + (tag :: tagLen :: (value ++ rest)).length := by
      simp only [Walk.advance, Walk.look, List.length_cons, List.length_append, ← hTagLen]
      omega
    rw [hEnd] at hInside hPos
    refine ⟨fuel + 1, w', done, _ ++ new, ?_, by rw [hReads]; exact List.append_assoc _ _ _,
      fun r hr => ?_, hPos⟩
    · simp only [walk, hLeft, hAct', hTagLen', hWalk, Nat.add_one_ne_zero, if_false]
    · rcases List.mem_append.mp hr with hr | hr
      · exact look_inside hTag hNeed hr
      · exact hInside r hr

/-- A walk that stays inside and ends at the end has met complete records only, by induction on
its rounds. -/
theorem complete_of_walk : ∀ {fuel : Nat} {w : Walk σ} {bytes : List UInt8},
    walk h mem fuel w = some (w', done) → bytes.length < 256 → w.left = bytes.length →
    Holds mem w.pos bytes behind → (∀ r ∈ w'.reads, r.Inside (w.pos + bytes.length)) →
    (done = true → w'.pos = w.pos + bytes.length) → Complete h w.state bytes := by
  intro fuel
  induction fuel with
  | zero => nofun
  | succ fuel ih =>
    intro w bytes hWalk hLen hLeft hMem hReads hPos
    unfold walk at hWalk
    split at hWalk
    · rename_i hZero
      rw [List.eq_nil_of_length_eq_zero (hLeft.symm.trans hZero)]
      exact .done
    · rename_i hLeftPos
      have hLook : ∀ r ∈ (w.look h mem).reads, r.Inside (w.pos + bytes.length) := by
        intro r hr
        refine hReads r ?_
        split at hWalk
        · cases hWalk
          exact hr
        · obtain ⟨new, hNew⟩ := reads_of_walk hWalk
          rw [hNew]
          exact List.mem_append_left _ hr
      have hTwo := hLook ⟨w.pos, 2⟩ (by simp [Walk.look]) (Nat.succ_ne_zero 1)
      simp only [Nat.add_le_add_iff_left] at hTwo
      obtain ⟨tag, tagLen, rest, rfl⟩ : ∃ tag tagLen rest, bytes = tag :: tagLen :: rest := by
        match bytes, hTwo with
        | tag :: tagLen :: rest, _ => exact ⟨tag, tagLen, rest, rfl⟩
      obtain ⟨hTag, hTagLen, hValue⟩ := hMem.tag
      have hNeed : h.need tag ≤ rest.length := by
        by_cases hZero : h.need tag = 0
        · omega
        · have hLe := hLook ⟨w.pos + 2, h.need (mem w.pos)⟩ (by simp [Walk.look])
            (by rwa [hTag])
          simp only [hTag, List.length_cons] at hLe
          omega
      have hCongr : h.act (mem w.pos) (valueAt mem w.pos) w.state =
          h.act tag (load rest fun _ => 0) w.state := by
        rw [hTag, hValue]
        exact h.act_congr _ _ _ _ ((load_agree rest behind _).mono hNeed)
      rw [hCongr, hTagLen] at hWalk
      cases hAct : h.act tag (load rest fun _ => 0) w.state with
      | none => exact .stop hNeed hAct
      | some st =>
        rw [hAct] at hWalk
        simp only [List.length_cons] at hLen hLeft hReads hPos
        by_cases hFits : tagLen.toNat ≤ rest.length
        · rw [← List.take_append_drop tagLen.toNat rest] at hAct hNeed hMem ⊢
          have hTake : (rest.take tagLen.toNat).length = tagLen.toNat :=
            List.length_take_of_le hFits
          have hDropLen : (rest.drop tagLen.toNat).length = rest.length - tagLen.toNat :=
            List.length_drop
          have hMem' := hMem.drop
          rw [hTake] at hMem'
          refine .record hTake hNeed hAct
            (ih (w := (w.look h mem).advance tagLen st) hWalk (by omega) ?_ hMem' ?_ ?_)
          · simp only [Walk.advance, Walk.look]
            omega
          · intro r hr hNe
            have hLe := hReads r hr hNe
            simp only [Walk.advance, Walk.look]
            omega
          · intro hDone
            have hEq := hPos hDone
            simp only [Walk.advance, Walk.look]
            omega
        · obtain ⟨hDone, hNe⟩ := outside_of_walk
            (by simp only [Walk.advance, Walk.look]; omega) hWalk hReads
          exact absurd (hPos hDone) hNe

/-- The walk over an input is proper when its records are complete, and not otherwise. -/
theorem proper_iff {st : σ} {bytes : List UInt8} (hLen : bytes.length < 256) :
    Proper h (load bytes behind) bytes.length st ↔ Complete h st bytes := by
  have hMem : Holds (load bytes behind) (start bytes.length st).pos bytes behind := by
    intro i
    rw [show (start bytes.length st).pos = 0 from rfl, Nat.zero_add]
  have hZero : (start bytes.length st).pos + bytes.length = bytes.length := Nat.zero_add _
  constructor
  · rintro ⟨fuel, w, done, hWalk, hReads, hPos⟩
    rw [← hZero] at hReads hPos
    exact complete_of_walk hWalk hLen rfl hMem hReads hPos
  · intro hComplete
    obtain ⟨fuel, w, done, new, hWalk, hReads, hInside, hPos⟩ :=
      walk_of_complete hComplete hLen rfl rfl hMem
    rw [hZero] at hInside hPos
    exact ⟨fuel, w, done, hWalk, by rw [hReads]; exact hInside, hPos⟩

/-! ## Encoded records -/

/-- Records, each of a tag and a value, as bytes. -/
def encode (records : List (UInt8 × List UInt8)) : List UInt8 :=
  records.flatMap fun r => r.1 :: UInt8.ofNat r.2.length :: r.2

/-- The handler on one value after the other. -/
def handle (h : Handler σ) : σ → List (UInt8 × List UInt8) → Option σ
  | st, [] => some st
  | st, r :: records => (h.act r.1 (load r.2 fun _ => 0) st).bind fun st => handle h st records

/-- A value that the length can say and that is as long as the handler needs. -/
def Fits (h : Handler σ) (r : UInt8 × List UInt8) : Prop :=
  h.need r.1 ≤ r.2.length ∧ r.2.length < 256

theorem encode_cons (tag : UInt8) (value : List UInt8) (records : List (UInt8 × List UInt8)) :
    encode ((tag, value) :: records) =
      tag :: UInt8.ofNat value.length :: (value ++ encode records) := rfl

/-- A walk over encoded records, by induction on them. -/
theorem walk_encode {records : List (UInt8 × List UInt8)} :
    ∀ {fuel : Nat} {w : Walk σ}, (∀ r ∈ records, Fits h r) → (encode records).length < 256 →
      records.length < fuel → w.left = (encode records).length →
      Holds mem w.pos (encode records) behind →
      ∃ w' new, walk h mem fuel w = some (w', (handle h w.state records).isSome) ∧
        w'.reads = w.reads ++ new ∧
        (∀ r ∈ new, r.Inside (w.pos + (encode records).length)) ∧
        ∀ st, handle h w.state records = some st →
          w'.state = st ∧ w'.pos = w.pos + (encode records).length := by
  induction records with
  | nil =>
    intro fuel w _ _ hFuel hLeft _
    obtain ⟨fuel, rfl⟩ := Nat.exists_eq_succ_of_ne_zero (Nat.ne_of_gt hFuel)
    refine ⟨w, [], if_pos hLeft, (List.append_nil _).symm, nofun, fun st hSt => ?_⟩
    cases hSt
    exact ⟨rfl, rfl⟩
  | cons r records ih =>
    intro fuel w hFits hLen hFuel hLeft hMem
    obtain ⟨tag, value⟩ := r
    obtain ⟨fuel, rfl⟩ := Nat.exists_eq_succ_of_ne_zero (Nat.ne_of_gt (Nat.zero_lt_of_lt hFuel))
    obtain ⟨hNeed, hShort⟩ := hFits (tag, value) List.mem_cons_self
    simp only at hNeed hShort
    have hToNat : (UInt8.ofNat value.length).toNat = value.length := by
      rw [UInt8.toNat_ofNat']
      omega
    rw [encode_cons] at hLen hLeft hMem ⊢
    obtain ⟨hTag, hTagLen, hValue⟩ := hMem.tag
    have hLe : h.need tag ≤ (value ++ encode records).length := by
      rw [List.length_append]
      omega
    have hAct : h.act (mem w.pos) (valueAt mem w.pos) w.state =
        h.act tag (load value fun _ => 0) w.state := by
      rw [hTag, hValue]
      exact h.act_congr _ _ _ _ ((load_append_agree value _ behind _).mono hNeed)
    simp only [List.length_cons, List.length_append] at hLen hLeft hFuel
    have hWalk : walk h mem (fuel + 1) w =
        match h.act tag (load value fun _ => 0) w.state with
        | none => some (w.look h mem, false)
        | some st => walk h mem fuel ((w.look h mem).advance (UInt8.ofNat value.length) st) := by
      rw [walk, if_neg (by omega), hAct, hTagLen]
    cases hSt : h.act tag (load value fun _ => 0) w.state with
    | none =>
      refine ⟨w.look h mem, _, ?_, rfl, fun r => look_inside hTag hLe, ?_⟩
      · simp [hWalk, hSt, handle]
      · simp [handle, hSt]
    | some st =>
      have hLeft' : ((w.look h mem).advance (UInt8.ofNat value.length) st).left =
          (encode records).length := by
        simp only [Walk.advance, Walk.look, hToNat]
        omega
      have hMem' : Holds mem ((w.look h mem).advance (UInt8.ofNat value.length) st).pos
          (encode records) behind := by
        simp only [Walk.advance, Walk.look, hToNat]
        exact hMem.drop
      obtain ⟨w', new, hRun, hReads, hInside, hEnd⟩ :=
        @ih fuel _ (fun r hr => hFits r (List.mem_cons_of_mem _ hr)) (by omega) (by omega) hLeft'
          hMem'
      have hPos : ((w.look h mem).advance (UInt8.ofNat value.length) st).pos +
          (encode records).length =
            w.pos + (tag :: UInt8.ofNat value.length :: (value ++ encode records)).length := by
        simp only [Walk.advance, Walk.look, List.length_cons, List.length_append, hToNat]
        omega
      rw [hPos] at hInside hEnd
      refine ⟨w', _ ++ new, ?_, by rw [hReads]; exact List.append_assoc _ _ _,
        fun r hr => ?_, ?_⟩
      · simp only [hWalk, hSt, hRun, handle, Option.bind_some]
        rfl
      · rcases List.mem_append.mp hr with hr | hr
        · exact look_inside hTag hLe hr
        · exact hInside r hr
      · simp only [handle, hSt, Option.bind_some]
        exact hEnd

/-- The loop over encoded records from their start. -/
theorem walk_start (st : σ) (behind : Memory) {records : List (UInt8 × List UInt8)}
    (hFits : ∀ r ∈ records, Fits h r) (hLen : (encode records).length < 256)
    (hFuel : records.length < fuel) :
    ∃ w, walk h (load (encode records) behind) fuel (start (encode records).length st) =
        some (w, (handle h st records).isSome) ∧
      (∀ r ∈ w.reads, r.Inside (encode records).length) ∧
      ∀ st', handle h st records = some st' → w.state = st' ∧ w.pos = (encode records).length := by
  have hMem : Holds (load (encode records) behind) (start (encode records).length st).pos
      (encode records) behind := by
    intro i
    rw [start, Nat.zero_add]
  obtain ⟨w, new, hWalk, hReads, hInside, hEnd⟩ := walk_encode hFits hLen hFuel rfl hMem
  rw [show (start (encode records).length st).pos = 0 from rfl, Nat.zero_add] at hInside hEnd
  exact ⟨w, hWalk, by rw [hReads]; exact hInside, hEnd⟩

end EspHosted.Tlv
