import EspHosted.Lib.Machine
import EspHosted.Serial.HostTx

/-!
# Who frees the buffer that is written

`serial_ll_write` cuts `wbuffer` into fragments that all point into it. Only the last one carries
the function that frees it, and the transmit task copies them later, one after the other. When a
fragment is rejected, `wbuffer` is freed at once, by `h_transmit` if it is the last one and by
`serial_ll_write` if not.

* `serialLlWrite_of_reaches`: without the transmit task this is `serialLlWrite`.
* `released_of_reaches`: the buffer is freed once and not too early, as long as a fragment is only
  rejected when no earlier one is waiting to be copied.
* `not_released_of_rejected`: otherwise it is freed too early.
-/

namespace EspHosted.Serial.WriteBuffer

open Machine

/-! ## The writer and the transmit task -/

/-- A fragment given to `h_transmit`: its place in `wbuffer`, and whether it is the last one, which
carries `wbuffer` and the function that frees it. -/
structure Fragment where
  offset : Nat
  len : Nat
  last : Bool
  deriving DecidableEq

/-- Where `serial_ll_write` is: before its checks, in its loop, or done with a result. -/
inductive Phase
  | entry
  | writing
  | returned (ok : Bool)
  deriving DecidableEq

/-- A call with a `wbuffer` that is not `NULL`. `taken` is the fragment that the transmit task has
taken out of its queue and not copied yet, `sent` all that `h_transmit` accepted, `fault` a copy
out of freed memory. -/
structure State where
  phase : Phase
  offset : Nat
  remainingLen : Nat
  queue : List Fragment
  taken : Option Fragment
  sent : List Fragment
  freed : Nat
  fault : Bool
  deriving DecidableEq

inductive Action
  | enter (active : Bool)
  | transmit (ok : Bool)
  | take
  | finish (copied : Bool)
  deriving DecidableEq

def start : State :=
  { phase := .entry, offset := 0, remainingLen := 0, queue := [], taken := none, sent := [],
    freed := 0, fault := false }

/-- The checks of `serial_ll_write`. -/
def enter (wlen : Nat) (active : Bool) (s : State) : State :=
  if active = false ∨ wlen = 0 ∨ maxFragmentablePayloadSize < wlen then
    { s with phase := .returned false, freed := s.freed + 1 }
  else { s with phase := .writing, offset := 0, remainingLen := wlen }

/-- The fragment of one turn of the loop. -/
def nextFragment (t : Transport) (s : State) : Fragment :=
  let fragLen := if t.maxPayloadSize < s.remainingLen then t.maxPayloadSize else s.remainingLen
  ⟨s.offset, fragLen, decide (s.remainingLen ≤ t.maxPayloadSize)⟩

/-- One turn of the loop. A rejected fragment is released by `h_transmit`, and `serial_ll_write`
frees the buffer if the fragment does not carry it. -/
def transmit (t : Transport) (ok : Bool) (s : State) : State :=
  let f := nextFragment t s
  if ok then
    { s with
      phase := if s.remainingLen - f.len = 0 then .returned true else .writing
      offset := s.offset + f.len
      remainingLen := s.remainingLen - f.len
      queue := s.queue ++ [f]
      sent := s.sent ++ [f] }
  else
    { s with
      phase := .returned false
      freed := s.freed + (if f.last then 1 else 0) + (if f.last then 0 else 1) }

/-- The transmit task copies the fragment, or drops it for want of memory, and calls its free
function. -/
def finish (copied : Bool) (f : Fragment) (s : State) : State :=
  { s with
    taken := none
    fault := s.fault || (copied && s.freed != 0)
    freed := s.freed + if f.last then 1 else 0 }

def step (t : Transport) (wlen : Nat) (s : State) : Action → Option State
  | .enter active => if s.phase = .entry then some (enter wlen active s) else none
  | .transmit ok => if s.phase = .writing then some (transmit t ok s) else none
  | .take =>
    match s.taken, s.queue with
    | none, f :: queue => some { s with taken := some f, queue := queue }
    | _, _ => none
  | .finish copied => s.taken.map fun f => finish copied f s

/-! ## What should hold -/

/-- The fragments that still have to be copied. -/
def State.pending (s : State) : List Fragment := s.taken.toList ++ s.queue

/-- The buffer is freed at most once, not while a fragment is pending, and exactly once in the
end. -/
structure Released (s : State) : Prop where
  noFault : s.fault = false
  once : s.freed ≤ 1
  notPending : s.freed ≠ 0 → s.pending = []
  atEnd : (∃ ok, s.phase = .returned ok) → s.pending = [] → s.freed = 1

/-- No fragment is rejected while an earlier one is pending. -/
def RejectsIdle (s : State) : Action → Prop
  | .transmit false => s.pending = []
  | _ => True

instance (s : State) : (a : Action) → Decidable (RejectsIdle s a)
  | .transmit false => inferInstanceAs (Decidable (s.pending = []))
  | .transmit true => .isTrue trivial
  | .enter _ => .isTrue trivial
  | .take => .isTrue trivial
  | .finish _ => .isTrue trivial

/-- Who is to free the buffer: the writer, or the transmit task with the last fragment. -/
inductive Owned (s : State) : Prop
  | writer : (∀ ok, s.phase ≠ .returned ok) → s.freed = 0 → (∀ f ∈ s.pending, f.last = false) →
    Owned s
  | task (front : List Fragment) (f : Fragment) : s.freed = 0 → s.pending = front ++ [f] →
    f.last = true → (∀ g ∈ front, g.last = false) → (∃ ok, s.phase = .returned ok) → Owned s
  | nobody : s.freed = 1 → s.pending = [] → (∃ ok, s.phase = .returned ok) → Owned s

/-- The writer goes on while something is left to send. -/
structure Invariant (s : State) : Prop where
  noFault : s.fault = false
  owned : Owned s
  entry : s.phase = .entry → s.pending = []
  writing : s.phase = .writing → 0 < s.remainingLen

theorem Invariant.released {s : State} (h : Invariant s) : Released s := by
  obtain ⟨hFault, hOwned, -, -⟩ := h
  cases hOwned with
  | writer hPhase hFreed _ =>
    exact ⟨hFault, by omega, fun hNe => absurd hFreed hNe, fun ⟨ok, hOk⟩ => absurd hOk (hPhase ok)⟩
  | task front f hFreed hPending _ _ _ =>
    refine ⟨hFault, by omega, fun hNe => absurd hFreed hNe, fun _ hNil => ?_⟩
    rw [hPending] at hNil
    exact absurd hNil (by simp)
  | nobody hFreed hPending _ => exact ⟨hFault, by omega, fun _ => hPending, fun _ _ => hFreed⟩

/-! ## The fragments are those of `serialLlWrite` -/

/-- The frame that a fragment becomes. -/
def Fragment.frame (wbuffer : List UInt8) (f : Fragment) : Frame :=
  ⟨(wbuffer.drop f.offset).take f.len, 0, if f.last then 0 else moreFragment⟩

/-- The interface is active, and `h_transmit` answers as given. -/
def Answers (answer : Nat → Bool) (s : State) : Action → Prop
  | .enter active => active = true
  | .transmit ok => ok = answer s.offset
  | _ => True

/-- What was sent so far, followed by what the loop is still going to send, is what
`serialLlWrite` sends. -/
def SentSoFar (t : Transport) (answer : Nat → Bool) (wbuffer : List UInt8) (wlen : Nat)
    (s : State) : Prop :=
  match s.phase with
  | .entry => s.sent = []
  | .writing => 0 < s.remainingLen ∧ ∃ fuel, s.remainingLen ≤ fuel ∧
      serialLlWrite t answer wbuffer wlen =
        (s.sent.map (Fragment.frame wbuffer) ++
          (serialLlWriteLoop t.maxPayloadSize answer wbuffer fuel s.offset s.remainingLen).1,
        (serialLlWriteLoop t.maxPayloadSize answer wbuffer fuel s.offset s.remainingLen).2)
  | .returned ok =>
    serialLlWrite t answer wbuffer wlen = (s.sent.map (Fragment.frame wbuffer), ok)

theorem sentSoFar_enter {t : Transport} {answer : Nat → Bool} {wbuffer : List UInt8} {wlen : Nat}
    {s : State} (hSent : s.sent = []) : SentSoFar t answer wbuffer wlen (enter wlen true s) := by
  unfold enter
  split
  · rename_i hChecks
    simp only [SentSoFar, hSent, List.map_nil]
    unfold serialLlWrite
    rcases hChecks with hNo | hZero | hLong
    · cases hNo
    · rw [if_pos hZero]
    · rw [if_pos hLong]
      split <;> rfl
  · rename_i hChecks
    refine ⟨by dsimp only; omega, wlen, Nat.le_refl _, ?_⟩
    dsimp only
    rw [hSent, List.map_nil, List.nil_append, serialLlWrite, if_neg (by omega), if_neg (by omega)]

theorem frame_nextFragment (t : Transport) (wbuffer : List UInt8) (s : State) :
    (nextFragment t s).frame wbuffer =
      ⟨(wbuffer.drop s.offset).take (nextFragment t s).len, 0,
        if t.maxPayloadSize < s.remainingLen then moreFragment else 0⟩ := by
  unfold nextFragment Fragment.frame
  dsimp only
  congr 1
  by_cases hMore : t.maxPayloadSize < s.remainingLen
  · rw [if_neg (by simp only [decide_eq_true_iff]; omega), if_pos hMore]
  · rw [if_pos (by simp only [decide_eq_true_iff]; omega), if_neg hMore]

theorem sentSoFar_transmit {t : Transport} {answer : Nat → Bool} {wbuffer : List UInt8}
    {wlen : Nat} {s : State} (hPhase : s.phase = .writing)
    (h : SentSoFar t answer wbuffer wlen s) :
    SentSoFar t answer wbuffer wlen (transmit t (answer s.offset) s) := by
  rw [SentSoFar, hPhase] at h
  obtain ⟨hPos, fuel, hFuel, hWrite⟩ := h
  obtain ⟨fuel, rfl⟩ := Nat.exists_eq_succ_of_ne_zero (show fuel ≠ 0 by omega)
  have hSize := t.maxPayloadSize_pos
  rw [serialLlWriteLoop, if_pos hPos] at hWrite
  unfold transmit
  cases hAnswer : answer s.offset with
  | false =>
    rw [hAnswer] at hWrite
    simp only [Bool.false_eq_true, if_false, List.append_nil] at hWrite
    exact hWrite
  | true =>
    have hFrame := frame_nextFragment t wbuffer s
    have hLen : (nextFragment t s).len =
        if t.maxPayloadSize < s.remainingLen then t.maxPayloadSize else s.remainingLen := rfl
    rw [hAnswer] at hWrite
    simp only [if_true, ← hLen, ← hFrame] at hWrite
    have hTail : s.remainingLen - (nextFragment t s).len ≤ fuel := by
      rw [hLen]
      split <;> omega
    by_cases hRest : s.remainingLen - (nextFragment t s).len = 0
    · rw [hRest, serialLlWriteLoop_done] at hWrite
      simp only [if_true, hRest, SentSoFar, List.map_append]
      exact hWrite
    · simp only [if_true, if_neg hRest, SentSoFar, List.map_append, List.append_assoc]
      exact ⟨Nat.pos_of_ne_zero hRest, fuel, hTail, hWrite⟩

theorem sentSoFar_step {t : Transport} {answer : Nat → Bool} {wbuffer : List UInt8} {wlen : Nat}
    {s u : State} {a : Action} (h : SentSoFar t answer wbuffer wlen s)
    (hAnswers : Answers answer s a) (hStep : step t wlen s a = some u) :
    SentSoFar t answer wbuffer wlen u := by
  cases a with
  | enter active =>
    obtain rfl : active = true := hAnswers
    simp only [step] at hStep
    split at hStep
    · rename_i hPhase
      cases hStep
      rw [SentSoFar, hPhase] at h
      exact sentSoFar_enter h
    · cases hStep
  | transmit ok =>
    obtain rfl : ok = answer s.offset := hAnswers
    simp only [step] at hStep
    split at hStep
    · rename_i hPhase
      cases hStep
      exact sentSoFar_transmit hPhase h
    · cases hStep
  | take =>
    simp only [step] at hStep
    split at hStep <;> cases hStep
    exact h
  | finish copied =>
    obtain ⟨f, -, rfl⟩ := Option.map_eq_some_iff.mp hStep
    exact h

/-- Whatever the transmit task does in between, the fragments and the result are those of
`serialLlWrite`. -/
theorem serialLlWrite_of_reaches {t : Transport} {answer : Nat → Bool} {wbuffer : List UInt8}
    {wlen : Nat} {s : State} {ok : Bool} (hRun : Reaches (step t wlen) (Answers answer) start s)
    (hReturned : s.phase = .returned ok) :
    serialLlWrite t answer wbuffer wlen = (s.sent.map (Fragment.frame wbuffer), ok) := by
  have hSent : SentSoFar t answer wbuffer wlen s :=
    hRun.invariant rfl fun _ _ _ h hAnswers hStep => sentSoFar_step h hAnswers hStep
  rw [SentSoFar, hReturned] at hSent
  exact hSent

/-! ## The steps -/

section Steps

variable {t : Transport} {wlen : Nat} {s u : State}

theorem invariant_start : Invariant start :=
  ⟨rfl, .writer nofun rfl nofun, fun _ => rfl, nofun⟩

theorem invariant_enter (h : Invariant s) (hPhase : s.phase = .entry) (active : Bool) :
    Invariant (enter wlen active s) := by
  have hPending := h.entry hPhase
  have hFreed : s.freed = 0 := by
    cases h.owned with
    | writer _ hFreed _ => exact hFreed
    | task _ _ hFreed _ _ _ _ => exact hFreed
    | nobody _ _ hRet =>
      obtain ⟨ok, hOk⟩ := hRet
      rw [hPhase] at hOk
      cases hOk
  unfold enter
  split
  · refine ⟨h.noFault, .nobody ?_ hPending ⟨false, rfl⟩, nofun, nofun⟩
    dsimp only
    omega
  · rename_i hChecks
    refine ⟨h.noFault, .writer nofun hFreed ?_, nofun, fun _ => ?_⟩
    · intro f hf
      have hf : f ∈ s.pending := hf
      rw [hPending] at hf
      cases hf
    · dsimp only
      omega

theorem length_nextFragment (t : Transport) (hPos : 0 < s.remainingLen) :
    0 < (nextFragment t s).len ∧ (nextFragment t s).len ≤ s.remainingLen ∧
      ((nextFragment t s).last = true ↔ s.remainingLen - (nextFragment t s).len = 0) := by
  have hSize := t.maxPayloadSize_pos
  unfold nextFragment
  dsimp only
  rw [decide_eq_true_iff]
  split <;> omega

theorem invariant_transmit (h : Invariant s) (hPhase : s.phase = .writing) (ok : Bool)
    (hIdle : RejectsIdle s (.transmit ok)) : Invariant (transmit t ok s) := by
  have hPos := h.writing hPhase
  obtain ⟨-, hLe, hLast⟩ := length_nextFragment t hPos
  obtain ⟨hFreed, hNone⟩ : s.freed = 0 ∧ ∀ f ∈ s.pending, f.last = false := by
    cases h.owned with
    | writer _ hFreed hNone => exact ⟨hFreed, hNone⟩
    | task _ _ _ _ _ _ hRet | nobody _ _ hRet =>
      obtain ⟨ok, hOk⟩ := hRet
      rw [hPhase] at hOk
      cases hOk
  unfold transmit
  cases ok with
  | false =>
    have hIdle : s.pending = [] := hIdle
    refine ⟨h.noFault, .nobody ?_ hIdle ⟨false, rfl⟩, nofun, nofun⟩
    simp only [Bool.false_eq_true, if_false, hFreed]
    split <;> rfl
  | true =>
    have hPending : s.taken.toList ++ (s.queue ++ [nextFragment t s]) =
        s.pending ++ [nextFragment t s] := (List.append_assoc _ _ _).symm
    dsimp only
    rw [if_pos rfl]
    by_cases hRest : s.remainingLen - (nextFragment t s).len = 0
    · rw [if_pos hRest]
      exact ⟨h.noFault, .task s.pending _ hFreed hPending (hLast.mpr hRest) hNone ⟨true, rfl⟩,
        nofun, nofun⟩
    · rw [if_neg hRest]
      refine ⟨h.noFault, .writer nofun hFreed ?_, nofun, fun _ => Nat.pos_of_ne_zero hRest⟩
      intro f hf
      unfold State.pending at hf
      dsimp only at hf
      rw [hPending] at hf
      rcases List.mem_append.mp hf with hOld | hNew
      · exact hNone f hOld
      · rw [List.mem_singleton.mp hNew]
        exact Bool.eq_false_iff.mpr fun hYes => hRest (hLast.mp hYes)

theorem invariant_take {f : Fragment} {queue : List Fragment} (h : Invariant s)
    (hTaken : s.taken = none) (hQueue : s.queue = f :: queue) :
    Invariant { s with taken := some f, queue := queue } := by
  have hPending : ({ s with taken := some f, queue := queue } : State).pending = s.pending := by
    unfold State.pending
    rw [hTaken, hQueue]
    rfl
  refine ⟨h.noFault, ?_, fun hEntry => hPending.trans (h.entry hEntry), h.writing⟩
  cases h.owned with
  | writer hPhase hFreed hNone =>
    exact .writer hPhase hFreed (by rw [hPending]; exact hNone)
  | task front l hFreed hList hLast hNone hRet =>
    exact .task front l hFreed (hPending.trans hList) hLast hNone hRet
  | nobody hFreed hNil hRet => exact .nobody hFreed (hPending.trans hNil) hRet

/-- The last fragment is copied after all others, and then its free function is called. -/
theorem invariant_finish {f : Fragment} (h : Invariant s) (hTaken : s.taken = some f)
    (copied : Bool) : Invariant (finish copied f s) := by
  have hPending : s.pending = f :: s.queue := by
    unfold State.pending
    rw [hTaken]
    rfl
  have hLeft : (finish copied f s).pending = s.queue := rfl
  have hFault (hFreed : s.freed = 0) : (finish copied f s).fault = false := by
    simp only [finish, h.noFault, hFreed, bne_self_eq_false, Bool.and_false, Bool.or_false]
  have hEntry : (finish copied f s).phase ≠ .entry := by
    intro hPhase
    have hNil := h.entry hPhase
    rw [hPending] at hNil
    cases hNil
  cases h.owned with
  | writer hPhase hFreed hNone =>
    have hLast : f.last = false := hNone f (by rw [hPending]; exact List.mem_cons_self)
    refine ⟨hFault hFreed, .writer hPhase ?_ ?_, fun hE => absurd hE hEntry, h.writing⟩
    · simp only [finish, hLast, hFreed, Bool.false_eq_true, if_false]
    · intro g hg
      rw [hLeft] at hg
      exact hNone g (by rw [hPending]; exact List.mem_cons_of_mem _ hg)
  | task front l hFreed hList hLast hNone hRet =>
    refine ⟨hFault hFreed, ?_, fun hE => absurd hE hEntry, h.writing⟩
    rw [hPending] at hList
    cases front with
    | nil =>
      obtain ⟨rfl, hNil⟩ := List.cons.inj hList
      apply Owned.nobody _ (hLeft.trans hNil) hRet
      simp only [finish, hLast, hFreed, if_true]
    | cons g front =>
      obtain ⟨rfl, hQueue⟩ := List.cons.inj hList
      have hFirst := hNone f List.mem_cons_self
      refine .task front l ?_ (hLeft.trans hQueue) hLast
        (fun g hg => hNone g (List.mem_cons_of_mem _ hg)) hRet
      simp only [finish, hFirst, hFreed, Bool.false_eq_true, if_false]
  | nobody _ hNil _ =>
    rw [hPending] at hNil
    cases hNil

theorem invariant_step {a : Action} (h : Invariant s) (hIdle : RejectsIdle s a)
    (hStep : step t wlen s a = some u) : Invariant u := by
  cases a with
  | enter active =>
    simp only [step] at hStep
    split at hStep
    · rename_i hPhase
      cases hStep
      exact invariant_enter h hPhase active
    · cases hStep
  | transmit ok =>
    simp only [step] at hStep
    split at hStep
    · rename_i hPhase
      cases hStep
      exact invariant_transmit h hPhase ok hIdle
    · cases hStep
  | take =>
    simp only [step] at hStep
    split at hStep
    · rename_i f queue hTaken hQueue
      cases hStep
      exact invariant_take h hTaken hQueue
    · cases hStep
  | finish copied =>
    obtain ⟨f, hTaken, rfl⟩ := Option.map_eq_some_iff.mp hStep
    exact invariant_finish h hTaken copied

end Steps

/-! ## Every run -/

/-- The buffer is freed exactly once and not while a fragment has to be copied, in every run in
which a fragment is only rejected when none is pending. -/
theorem released_of_reaches {t : Transport} {wlen : Nat} {s : State}
    (hRun : Reaches (step t wlen) RejectsIdle start s) : Released s :=
  (hRun.invariant invariant_start fun _ _ _ h hIdle hStep =>
    invariant_step h hIdle hStep).released

/-- Two fragments, and the first one is copied before the second one is rejected. -/
theorem released_idle : ∃ s, Reaches (step .sdio 2000) RejectsIdle start s ∧ Released s ∧
    s.freed = 1 := by
  obtain ⟨s, hs, hFreed⟩ := Option.map_eq_some_iff.mp (show
    (runGuarded (step .sdio 2000) RejectsIdle start
      [.enter true, .transmit true, .take, .finish true, .transmit false]).map State.freed =
      some 1 by decide +kernel)
  exact ⟨s, .of_run hs, released_of_reaches (.of_run hs), hFreed⟩

/-- The first of two fragments is still queued when the second one is rejected and the buffer
freed. -/
theorem not_released : ¬∀ t wlen s, Reaches (step t wlen) anyStep start s → Released s := by
  intro h
  obtain ⟨s, hs, hView⟩ := Option.map_eq_some_iff.mp (show
    (run (step .sdio 2000) start [.enter true, .transmit true, .transmit false]).map
      (fun s => (s.freed, s.pending)) = some (1, [⟨0, 1524, false⟩]) by decide +kernel)
  obtain ⟨hFreed, hPending⟩ : s.freed = 1 ∧ s.pending = [⟨0, 1524, false⟩] := by simpa using hView
  have hNil := (h .sdio 2000 s (.of_plain_run hs)).notPending (by omega)
  rw [hPending] at hNil
  cases hNil

/-- A rejection while a fragment is pending always frees the buffer too early. -/
theorem not_released_of_rejected {t : Transport} {wlen : Nat} {s u : State}
    (hPending : s.pending ≠ []) (hStep : step t wlen s (.transmit false) = some u) :
    ¬Released u := by
  intro hReleased
  simp only [step] at hStep
  split at hStep
  · cases hStep
    apply hPending
    apply hReleased.notPending
    unfold transmit
    dsimp only
    rw [if_neg (by decide)]
    dsimp only
    split <;> omega
  · cases hStep

end EspHosted.Serial.WriteBuffer
