import EspHosted.Serial.HostRx
import EspHosted.Serial.SlaveTx

/-!
# Control path from the co-processor to the host

The frames of the messages that the co-processor has sent arrive at the host in order. Every
message goes through `r`, the queue and one call of `h_serial_if_recv`; the semaphore counts
the messages in the queue.

* `received_iff`: along steps of `Provided` the host obtains the messages, in order and one in
  each receive, if and only if they fit into the buffer of `rpc_rx_thread`;
* `not_received`: a message of 1601 bytes, which the path accepts, is thrown away.
-/

namespace EspHosted.Serial.SlaveToHost

open Machine Fragments HostRx

/-! ## Where the messages are -/

/-- What a call of `h_serial_if_recv` makes of a message. -/
def outcome (m : Outgoing) : Except RecvError (List UInt8) :=
  if m.data.length ≤ espTransportMaxBufSize then .ok m.data else .error .invalidArg

/-- `done` is received, `queued` is in the queue, and the rest is to be put together from `r`
and the frames to come. -/
structure Inv (ms : List Outgoing) (s : HostRx) (done queued rest : List Outgoing)
    (acc : List UInt8) : Prop where
  whole : ms = done ++ queued ++ rest
  received : s.received = done.map outcome
  queue : s.queue = queued.map fun m => RxBuf.ofData m.wrapped
  coming : rest.map Outgoing.wrapped = collect acc (s.input.map Frame.piece)
  buffer : s.r = .holding acc
  announced : s.readSem + s.indicating.toNat + s.woken.toNat = s.queue.length
  nonempty : ∀ f ∈ s.input, f.payload ≠ []
  fault : s.fault = false

def Kept (ms : List Outgoing) (s : HostRx) : Prop :=
  ∃ done queued rest acc, Inv ms s done queued rest acc

variable {ms : List Outgoing} {s s' : HostRx} {semMax : Nat}

theorem outcome_eq {m : Outgoing} (h : Wrappable m.data) :
    hSerialIfRecv .ideal espTransportMaxBufSize (.ofData m.wrapped) = some (outcome m) := by
  have hEp : m.epname = rpcEpNameRsp ∨ m.epname = rpcEpNameEvt := by
    cases m
    · exact Or.inl rfl
    · exact Or.inr rfl
  exact hSerialIfRecv_tlv espTransportMaxBufSize hEp h

/-! ## One step -/

theorem rxHandler_kept (hKept : Kept ms s) (h : rxHandler .ideal s = some s') : Kept ms s' := by
  obtain ⟨done, queued, rest, acc, hInv⟩ := hKept
  unfold rxHandler at h
  split at h
  · rename_i f input hInd hInput
    have hNe : f.payload ≠ [] := hInv.nonempty f (by simp [hInput])
    have hRest : ∀ g ∈ input, g.payload ≠ [] := fun g hg =>
      hInv.nonempty g (by simp [hInput, hg])
    have hComing := hInv.coming
    have hCount := hInv.announced
    rw [hInd] at hCount
    rw [hInput, List.map_cons, Frame.piece] at hComing
    rw [hInv.buffer, serialLlRxHandler_ok acc hNe] at h
    cases hMore : f.more with
    | true =>
      rw [hMore] at hComing h
      cases h
      exact ⟨done, queued, rest, acc ++ f.payload, hInv.whole, hInv.received, hInv.queue, hComing,
        rfl, hInd ▸ hCount, hRest, hInv.fault⟩
    | false =>
      simp only [hMore, Bool.false_eq_true, if_false] at h
      split at h
      · cases h
        -- the message that is complete is the first of the rest
        rw [hMore, collect] at hComing
        obtain ⟨m, rest, rfl, hMsg, hTail⟩ := List.map_eq_cons_iff.mp hComing
        refine ⟨done, queued ++ [m], rest, [], ?_, hInv.received, ?_, hTail, rfl, ?_, hRest,
          hInv.fault⟩
        · rw [hInv.whole]
          simp
        · simp [hInv.queue, hMsg]
        · simp only [List.length_append, List.length_singleton, Bool.toNat_true]
          simp only [Bool.toNat_false] at hCount
          omega
      · cases h
  · cases h

theorem indicate_kept (hKept : Kept ms s) (hGuard : s.readSem < semMax)
    (h : indicate semMax s = some s') : Kept ms s' := by
  obtain ⟨done, queued, rest, acc, hInv⟩ := hKept
  unfold indicate at h
  split at h
  · rename_i hInd
    cases h
    refine ⟨done, queued, rest, acc, hInv.whole, hInv.received, hInv.queue, hInv.coming,
      hInv.buffer, ?_, hInv.nonempty, hInv.fault⟩
    have hCount := hInv.announced
    simp only [hInd, Bool.toNat_true] at hCount
    simp only [Bool.toNat_false]
    omega
  · cases h

theorem takeSem_kept (hKept : Kept ms s) (h : takeSem s = some s') : Kept ms s' := by
  obtain ⟨done, queued, rest, acc, hInv⟩ := hKept
  unfold takeSem at h
  split at h
  · rename_i hSem
    cases h
    refine ⟨done, queued, rest, acc, hInv.whole, hInv.received, hInv.queue, hInv.coming,
      hInv.buffer, ?_, hInv.nonempty, hInv.fault⟩
    have hCount := hInv.announced
    simp only [hSem.1, Bool.toNat_false] at hCount
    simp only [Bool.toNat_true]
    omega
  · cases h

theorem recv_kept (hSizes : ∀ m ∈ ms, Wrappable m.data) (hKept : Kept ms s)
    (h : recv .ideal s = some s') : Kept ms s' := by
  obtain ⟨done, queued, rest, acc, hInv⟩ := hKept
  unfold recv at h
  split at h
  · rename_i b queue hWoken hQueue
    have hQueued := hInv.queue
    rw [hQueue] at hQueued
    obtain ⟨m, queued, rfl, rfl, rfl⟩ := List.map_eq_cons_iff.mp hQueued.symm
    have hSize : Wrappable m.data := hSizes m (by rw [hInv.whole]; simp)
    rw [outcome_eq hSize] at h
    cases h
    refine ⟨done ++ [m], queued, rest, acc, ?_, ?_, rfl, hInv.coming, hInv.buffer, ?_,
      hInv.nonempty, hInv.fault⟩
    · rw [hInv.whole]
      simp
    · simp [hInv.received]
    · have hCount := hInv.announced
      simp only [hWoken, hQueue, Bool.toNat_true, List.length_cons] at hCount
      simp only [Bool.toNat_false]
      omega
  · cases h

theorem step_kept (hSizes : ∀ m ∈ ms, Wrappable m.data) {a : Action} (hKept : Kept ms s)
    (hGuard : Provided semMax s a) (h : step semMax s a = some s') : Kept ms s' := by
  unfold step at h
  split at h
  · cases h
  · cases a with
    | rxHandler env =>
      obtain rfl : env = .ideal := hGuard
      exact rxHandler_kept hKept h
    | indicate => exact indicate_kept hKept hGuard h
    | takeSem => exact takeSem_kept hKept h
    | recv env =>
      obtain rfl : env = .ideal := hGuard
      exact recv_kept hSizes hKept h

/-! ## Whole runs -/

theorem Kept.received_eq (hKept : Kept ms s) :
    s.received = (ms.take s.received.length).map outcome := by
  obtain ⟨done, queued, rest, acc, hInv⟩ := hKept
  rw [hInv.received, hInv.whole, List.length_map, List.append_assoc, List.take_left]

theorem Kept.received_of_done (hKept : Kept ms s) (hDone : Done s) :
    s.received = ms.map outcome := by
  obtain ⟨done, queued, rest, acc, hInv⟩ := hKept
  obtain ⟨hInput, hQueue, -⟩ := hDone
  have hQueued : queued = [] := by
    have h := hInv.queue
    rw [hQueue] at h
    exact List.map_eq_nil_iff.mp h.symm
  have hRest : rest = [] := by
    have h := hInv.coming
    rw [hInput] at h
    exact List.map_eq_nil_iff.mp h
  rw [hInv.received, hInv.whole, hQueued, hRest, List.append_nil, List.append_nil]

/-- The results are the messages exactly when every message fits. -/
theorem map_outcome_iff (ms : List Outgoing) :
    ms.map outcome = ms.map (fun m => .ok m.data) ↔
      ∀ m ∈ ms, m.data.length ≤ espTransportMaxBufSize := by
  rw [List.map_inj_left]
  apply forall₂_congr
  intro m _
  by_cases hFits : m.data.length ≤ espTransportMaxBufSize
  · simp [outcome, hFits]
  · simp [outcome, hFits]

/-- Before every message is received, some step is possible that needs nothing else. -/
theorem Kept.progress (hSizes : ∀ m ∈ ms, Wrappable m.data) (hKept : Kept ms s)
    (hMax : 0 < semMax) (hDone : ¬ Done s) :
    ∃ a s', Provided semMax s a ∧ step semMax s a = some s' := by
  obtain ⟨done, queued, rest, acc, hInv⟩ := hKept
  have hCount := hInv.announced
  have hFault : ¬ s.fault = true := by simp [hInv.fault]
  cases hWoken : s.woken with
  | true =>
    simp only [hWoken, Bool.toNat_true] at hCount
    cases hQueue : s.queue with
    | nil =>
      rw [hQueue, List.length_nil] at hCount
      omega
    | cons b queue =>
      have hQueued := hInv.queue
      rw [hQueue] at hQueued
      obtain ⟨m, queued, rfl, rfl, rfl⟩ := List.map_eq_cons_iff.mp hQueued.symm
      have hSize : Wrappable m.data := hSizes m (by rw [hInv.whole]; simp)
      refine ⟨.recv .ideal, ?_⟩
      simp only [step, if_neg hFault, recv, hWoken, hQueue, outcome_eq hSize]
      exact ⟨_, rfl, rfl⟩
  | false =>
    by_cases hSem : 0 < s.readSem
    · refine ⟨.takeSem, ?_⟩
      simp only [step, if_neg hFault, takeSem, hWoken, hSem, and_self, if_true]
      exact ⟨_, trivial, rfl⟩
    · cases hInd : s.indicating with
      | true =>
        refine ⟨.indicate, ?_⟩
        simp only [step, if_neg hFault, indicate, hInd, if_true]
        exact ⟨_, show s.readSem < semMax by omega, rfl⟩
      | false =>
        -- nothing is announced, so the queue is empty
        have hQueue : s.queue = [] := by
          simp only [hWoken, hInd, Bool.toNat_false] at hCount
          exact List.length_eq_zero_iff.mp (by omega)
        cases hInput : s.input with
        | nil => exact absurd ⟨hInput, hQueue, hInd⟩ hDone
        | cons f input =>
          have hNe : f.payload ≠ [] := hInv.nonempty f (by simp [hInput])
          have hRoom : 0 < toSerialInftQueueSize := by decide
          refine ⟨.rxHandler .ideal, ?_⟩
          simp only [step, if_neg hFault, rxHandler, hInd, hInput, hInv.buffer,
            serialLlRxHandler_ok acc hNe]
          cases f.more with
          | true => exact ⟨_, rfl, rfl⟩
          | false =>
            simp only [Bool.false_eq_true, if_false, hQueue, List.length_nil, hRoom, if_true]
            exact ⟨_, rfl, rfl⟩

/-! ## The path as a whole -/

/-- Starting with `seqNum`, the co-processor has sent the messages `ms`, every one of them
accepted, as `frames`. -/
inductive Sent : Nat → List Outgoing → List Frame → Prop
  | nil {seqNum : Nat} : Sent seqNum [] []
  | cons {seqNum : Nat} {m : Outgoing} {ms : List Outgoing} {callocOk : Bool} {send : Nat → Bool}
      {w : Written} {rest : List Frame} :
      xmit callocOk send seqNum m = some w → w.ok = true → Sent w.seqNum ms rest →
      Sent seqNum (m :: ms) (w.frames ++ rest)

theorem xmit_ok {callocOk : Bool} {send : Nat → Bool} {seqNum : Nat} {m : Outgoing} {w : Written}
    (h : xmit callocOk send seqNum m = some w) (hOk : w.ok = true) :
    w.frames.map Frame.piece = fragments ethDataLen m.wrapped := by
  cases callocOk with
  | false =>
    cases h
    cases hOk
  | true =>
    rw [xmit_eq, Option.some.injEq] at h
    subst h
    exact serialWriteData_ok hOk

theorem Sent.pieces {seqNum : Nat} {frames : List Frame} (hSent : Sent seqNum ms frames) :
    frames.map Frame.piece = (ms.map Outgoing.wrapped).flatMap (fragments ethDataLen) := by
  induction hSent with
  | nil => rfl
  | cons hXmit hOk _ ih =>
    rw [List.map_append, xmit_ok hXmit hOk, ih]
    simp

theorem Sent.kept {seqNum : Nat} {frames : List Frame} (hSent : Sent seqNum ms frames) :
    Kept ms (init frames) := by
  have hPieces := hSent.pieces
  refine ⟨[], [], ms, [], rfl, rfl, rfl, ?_, rfl, rfl, ?_, rfl⟩
  · rw [init, hPieces, collect_flatMap ethDataLen_pos]
  · intro f hf
    have hPiece : f.piece ∈ frames.map Frame.piece := List.mem_map_of_mem hf
    rw [hPieces] at hPiece
    obtain ⟨msg, hMsg, hMem⟩ := List.mem_flatMap.mp hPiece
    obtain ⟨m, -, rfl⟩ := List.mem_map.mp hMsg
    exact ne_nil_of_mem_fragments ethDataLen_pos (tlv_ne_nil _ _) hMem

theorem Sent.kept_of_reaches {seqNum : Nat} {frames : List Frame} (hSent : Sent seqNum ms frames)
    (hSizes : ∀ m ∈ ms, Wrappable m.data)
    (hRun : Reaches (step semMax) (Provided semMax) (init frames) s) : Kept ms s :=
  hRun.invariant hSent.kept fun _ _ _ hKept hGuard hStep => step_kept hSizes hKept hGuard hStep

/-- Co-processor to host: along provided steps, for every sequence of accepted messages, the
receives so far have returned the first messages, whole and one each, exactly when these fit
into the buffer of `rpc_rx_thread`; when everything is processed, the same holds of all
messages; and before that some provided step is possible. -/
theorem received_iff {seqNum semMax : Nat} {ms : List Outgoing} {frames : List Frame} {s : HostRx}
    (hSizes : ∀ m ∈ ms, Fragmentable m.data) (hSent : Sent seqNum ms frames) (hMax : 0 < semMax)
    (hRun : Reaches (step semMax) (Provided semMax) (init frames) s) :
    (s.received <+: ms.map (fun m => .ok m.data) ↔
        ∀ m ∈ ms.take s.received.length, m.data.length ≤ espTransportMaxBufSize) ∧
      (Done s → (s.received = ms.map (fun m => .ok m.data) ↔
        ∀ m ∈ ms, m.data.length ≤ espTransportMaxBufSize)) ∧
      (¬ Done s → ∃ a s', Provided semMax s a ∧ step semMax s a = some s') := by
  have hWrap : ∀ m ∈ ms, Wrappable m.data := fun m hm => (hSizes m hm).wrappable
  have hKept : Kept ms s := hSent.kept_of_reaches hWrap hRun
  refine ⟨?_, ?_, hKept.progress hWrap hMax⟩
  · have hSome := hKept.received_eq
    rw [← map_outcome_iff, ← hSome, List.map_take]
    exact List.prefix_iff_eq_take
  · intro hDone
    rw [hKept.received_of_done hDone]
    exact map_outcome_iff ms

/-! ## A message too long for the reader -/

/-- The frames of one message that is sent first. -/
def onlyFrames (m : Outgoing) : List Frame := (serialWriteData (fun _ => true) 0 m.wrapped).frames

theorem sent_onlyFrames (m : Outgoing) : Sent 0 [m] (onlyFrames m) := by
  have hSent := Sent.cons (xmit_eq (fun _ => true) 0 m) (serialWriteData_sent 0 _) .nil
  rwa [List.append_nil] at hSent

/-- The receive of one message that has come in one frame, or in two. -/
def shortSchedule : List Action := [.rxHandler .ideal, .indicate, .takeSem, .recv .ideal]

def longSchedule : List Action := .rxHandler .ideal :: shortSchedule

/-- The frames of messages that are sent one after the other. -/
def sentFrames : Nat → List Outgoing → List Frame
  | _, [] => []
  | seqNum, m :: ms =>
    let written := serialWriteData (fun _ => true) seqNum m.wrapped
    written.frames ++ sentFrames written.seqNum ms

theorem sent_sentFrames (seqNum : Nat) (ms : List Outgoing) :
    Sent seqNum ms (sentFrames seqNum ms) := by
  induction ms generalizing seqNum with
  | nil => exact .nil
  | cons m ms ih => exact .cons (xmit_eq _ seqNum m) (serialWriteData_sent seqNum _) (ih _)

/-- An event, a response that takes two frames, and another event. -/
def threeMessages : List Outgoing :=
  [.event [7], .response (List.replicate 1590 8), .event [9, 10]]

theorem received_iff_threeMessages :
    ∃ s, runGuarded (step 10) (Provided 10) (init (sentFrames 0 threeMessages))
      (shortSchedule ++ longSchedule ++ shortSchedule) = some s ∧ Done s ∧
      (sentFrames 0 threeMessages).length = 4 ∧
      s.received = [.ok [7], .ok (List.replicate 1590 8), .ok [9, 10]] := by
  have hSizes : ∀ m ∈ threeMessages, Fragmentable m.data := by
    intro m hm
    simp only [threeMessages, List.mem_cons, List.not_mem_nil, or_false] at hm
    rcases hm with rfl | rfl | rfl
    · decide
    · simp only [Fragmentable, Outgoing.data, List.length_replicate]
      decide
    · decide
  have hFits : ∀ m ∈ threeMessages, m.data.length ≤ espTransportMaxBufSize := by
    intro m hm
    simp only [threeMessages, List.mem_cons, List.not_mem_nil, or_false] at hm
    rcases hm with rfl | rfl | rfl
    · decide
    · simp only [Outgoing.data, List.length_replicate]
      decide
    · decide
  have hRun : (runGuarded (step 10) (Provided 10) (init (sentFrames 0 threeMessages))
      (shortSchedule ++ longSchedule ++ shortSchedule)).map (fun s =>
        (s.input.length, s.queue.length, s.indicating, (sentFrames 0 threeMessages).length)) =
        some (0, 0, false, 4) := by decide +kernel
  obtain ⟨s, hs, hFinal⟩ := Option.map_eq_some_iff.mp hRun
  simp only [Prod.mk.injEq, List.length_eq_zero_iff] at hFinal
  obtain ⟨hInput, hQueue, hIndicating, hLength⟩ := hFinal
  have hDone : Done s := ⟨hInput, hQueue, hIndicating⟩
  have hIff := received_iff hSizes (sent_sentFrames 0 _) (by decide) (.of_run hs)
  exact ⟨s, hs, hDone, hLength, (hIff.2.1 hDone).mpr hFits⟩

/-- A response one byte longer than `recv_buf`. -/
def longResponse : Outgoing := .response (List.replicate 1601 7)

/-- The response is read out of the queue and thrown away. -/
theorem not_received :
    ¬ ∀ seqNum ms frames s, (∀ m ∈ ms, Fragmentable m.data) → Sent seqNum ms frames →
      Reaches (step 10) (Provided 10) (init frames) s → Done s →
      s.received = ms.map (fun m => .ok m.data) := by
  intro h
  have hSize : Fragmentable longResponse.data := by
    simp only [Fragmentable, longResponse, Outgoing.data, List.length_replicate]
    decide
  have hSizes : ∀ m ∈ [longResponse], Fragmentable m.data := by
    simpa using hSize
  have hSent := sent_onlyFrames longResponse
  have hRun : (runGuarded (step 10) (Provided 10) (init (onlyFrames longResponse))
      longSchedule).map (fun s => (s.input.length, s.queue.length, s.indicating)) =
        some (0, 0, false) := by decide +kernel
  obtain ⟨s, hs, hFinal⟩ := Option.map_eq_some_iff.mp hRun
  simp only [Prod.mk.injEq, List.length_eq_zero_iff] at hFinal
  have hReach : Reaches (step 10) (Provided 10) (init (onlyFrames longResponse)) s := .of_run hs
  have hKept : Kept [longResponse] s :=
    hSent.kept_of_reaches (fun m hm => (hSizes m hm).wrappable) hReach
  have hAll := h 0 [longResponse] _ s hSizes hSent hReach hFinal
  rw [hKept.received_of_done hFinal, map_outcome_iff] at hAll
  have hFits := hAll longResponse (by simp)
  simp only [longResponse, Outgoing.data, List.length_replicate, espTransportMaxBufSize] at hFits
  omega

end EspHosted.Serial.SlaveToHost
