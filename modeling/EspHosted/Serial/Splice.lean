import EspHosted.Lib.Loss
import EspHosted.Serial.HostRx
import EspHosted.Serial.SlaveTx

/-!
# Lost frames on the way to the host

Any of the frames that `serial_write_data` produces may be missing when the rest arrives at
`serial_ll_rx_handler`: because a send failed, or because the frame was dropped on the way.
The handler does not look at `seq_num`. Every frame is tagged with its message and its
position in it, and every buffer that the handler enqueues with the frames it is made of.

* `exact_iff`: when the buffers are the messages;
* `not_exact`: a message that lost its last fragment is joined with the next one.
-/

namespace EspHosted.Serial.Splice

open Fragments Loss

/-- Frame number `pos` of message number `msg`. -/
structure Tagged where
  msg : Nat
  pos : Nat
  frame : Frame
  deriving DecidableEq

def Tagged.more (t : Tagged) : Bool := t.frame.more

/-- The bytes that the frames carry. -/
def bytes (l : List Tagged) : List UInt8 := l.flatMap (·.frame.payload)

def tagFrames (msg : Nat) (frames : List Frame) : List Tagged :=
  frames.zipIdx.map fun (frame, pos) => ⟨msg, pos, frame⟩

/-! ## The co-processor -/

/-- The environment of one message: `calloc` in `compose_tlv`, and `send_to_host_queue` for
each fragment. -/
structure XmitEnv where
  callocOk : Bool
  send : Nat → Bool

/-- A message, all the frames it consists of, and those that went into the queue. -/
structure SentMsg where
  msg : Outgoing
  frames : List Tagged
  queued : List Tagged

/-- The messages that are passed to `xmit` one after the other, numbered from `k` on. -/
def slaveSends (k seqNum : Nat) : List (Outgoing × XmitEnv) → List SentMsg
  | [] => []
  | (m, env) :: rest =>
    let w := (xmit env.callocOk env.send seqNum m).getD ⟨[], false, seqNum⟩
    ⟨m, tagFrames k (serialWriteData (fun _ => true) seqNum m.wrapped).frames,
      tagFrames k w.frames⟩ :: slaveSends (k + 1) w.seqNum rest

/-! ## The host -/

/-- The buffers that `serial_ll_rx_handler` enqueues when it is called with these frames, each
with the frames it is made of. `acc` are the frames in `r`. A use of freed memory ends the
run. -/
def enqueued (r : HostRxData) (acc : List Tagged) :
    List (RxEnv × Tagged) → List (List Tagged × RxBuf)
  | [] => []
  | (env, t) :: calls =>
    match serialLlRxHandler env r t.frame with
    | none => []
    | some (r, some b) => (acc ++ [t], b) :: enqueued r [] calls
    | some (.live data, none) => enqueued (.live data) (acc ++ [t]) calls
    | some (r, none) => enqueued r [] calls

/-- The buffer is one complete message: it is made of all its frames, and has its bytes and
its length. -/
def Exact (sent : List SentMsg) (e : List Tagged × RxBuf) : Prop :=
  ∃ s ∈ sent, e = (s.frames, ⟨s.msg.wrapped, s.msg.wrapped.length⟩)

/-- The frames that are not thrown away by the handler. At a failed `h_realloc` the frame and
those collected before it are. Once the handler has freed collected frames, because the
interface went down or for want of a buffer, it has a dangling pointer, and nothing that
comes later counts. -/
def retained (acc : List Tagged) : List (RxEnv × Tagged) → List Tagged
  | [] => acc
  | (env, t) :: calls =>
    if env.active = false then
      if acc = [] then retained [] calls else []
    else if env.reallocOk = false then retained [] calls
    else if t.more then retained (acc ++ [t]) calls
    else if env.mallocOk = false then []
    else acc ++ [t] ++ retained [] calls

/-- Of every message nothing arrives, or all of it and its length is a 16-bit number, or
neither its own last frame nor that of a later message. -/
def Intact (sent : List SentMsg) (got : List Tagged) : Prop :=
  ∀ i (h : i < sent.length),
    Unbroken Tagged.more (fun m => (bytes m).length < 2 ^ 16) Tagged.msg got i sent[i].frames

/-! ## The frames of a message -/

theorem bytes_append (l l' : List Tagged) : bytes (l ++ l') = bytes l ++ bytes l' :=
  List.flatMap_append

theorem bytes_singleton (t : Tagged) : bytes [t] = t.frame.payload := by
  simp [bytes]

theorem tagFrames_append (k : Nat) (frames rest : List Frame) :
    tagFrames k frames <+: tagFrames k (frames ++ rest) := by
  unfold tagFrames
  rw [List.zipIdx_append, List.map_append]
  exact List.prefix_append _ _

theorem msg_of_mem_tagFrames {k : Nat} {frames : List Frame} {t : Tagged}
    (h : t ∈ tagFrames k frames) : t.msg = k := by
  obtain ⟨⟨frame, pos⟩, -, rfl⟩ := List.mem_map.mp h
  rfl

theorem map_frame_tagFrames (k : Nat) (frames : List Frame) :
    (tagFrames k frames).map (·.frame) = frames := by
  unfold tagFrames
  rw [List.map_map]
  exact List.zipIdx_map_fst 0 frames

/-- What is true of every message that the co-processor sends. -/
structure Whole (k : Nat) (s : SentMsg) : Prop where
  number : ∀ t ∈ s.frames, t.msg = k
  marked : Marked Tagged.more s.frames
  whole : bytes s.frames = s.msg.wrapped
  nonempty : ∀ t ∈ s.frames, t.frame.payload ≠ []
  queued : s.queued.Sublist s.frames

theorem bytes_of_pieces {l : List Tagged} {pieces : List (List UInt8 × Bool)}
    (h : l.map (·.frame.piece) = pieces) : bytes l = (pieces.map Prod.fst).flatten := by
  subst h
  simp [bytes, List.flatMap, List.map_map, Function.comp_def, Frame.piece]

theorem marked_of_pieces {l : List Tagged} {init : List (List UInt8)} {last : List UInt8}
    (h : l.map (·.frame.piece) = init.map (·, true) ++ [(last, false)]) :
    Marked Tagged.more l := by
  obtain ⟨l₁, l₂, rfl, h₁, h₂⟩ := List.map_eq_append_iff.mp h
  obtain ⟨t, rfl, hLast⟩ := List.map_eq_singleton_iff.mp h₂
  refine ⟨l₁, t, rfl, ?_, ?_⟩
  · intro a ha
    have hPiece : a.frame.piece ∈ init.map (·, true) := h₁ ▸ List.mem_map_of_mem ha
    obtain ⟨piece, -, hEq⟩ := List.mem_map.mp hPiece
    exact (congrArg Prod.snd hEq).symm
  · exact congrArg Prod.snd hLast

theorem whole_of_xmit (k seqNum : Nat) (m : Outgoing) (env : XmitEnv) :
    Whole k ⟨m, tagFrames k (serialWriteData (fun _ => true) seqNum m.wrapped).frames,
      tagFrames k ((xmit env.callocOk env.send seqNum m).getD ⟨[], false, seqNum⟩).frames⟩ := by
  have hPieces : (tagFrames k (serialWriteData (fun _ => true) seqNum m.wrapped).frames).map
      (·.frame.piece) = fragments ethDataLen m.wrapped := by
    have hFrames := map_frame_tagFrames k (serialWriteData (fun _ => true) seqNum m.wrapped).frames
    rw [← serialWriteData_ok (serialWriteData_sent seqNum m.wrapped), ← hFrames, List.map_map,
      hFrames]
    rfl
  obtain ⟨init, last, hEq, hSplit⟩ := fragments_split ethDataLen_pos m.wrapped
  refine ⟨fun t ht => msg_of_mem_tagFrames ht, marked_of_pieces (hPieces.trans hEq), ?_, ?_, ?_⟩
  · rw [bytes_of_pieces (hPieces.trans hEq), ← hSplit.whole]
    simp [List.map_map, Function.comp_def]
  · intro t ht
    have hMem : t.frame.piece ∈ fragments ethDataLen m.wrapped := by
      rw [← hPieces]
      exact List.mem_map_of_mem ht
    exact ne_nil_of_mem_fragments ethDataLen_pos (tlv_ne_nil _ _) hMem
  · apply List.IsPrefix.sublist
    cases hCalloc : env.callocOk with
    | false => exact List.nil_prefix
    | true =>
      rw [xmit_eq, Option.getD_some]
      obtain ⟨rest, hRest⟩ := serialWriteData_le env.send seqNum m.wrapped
      rw [← hRest]
      exact tagFrames_append k _ rest

theorem slaveSends_whole {k seqNum : Nat} {msgs : List (Outgoing × XmitEnv)} :
    ∀ i (h : i < (slaveSends k seqNum msgs).length),
      Whole (k + i) (slaveSends k seqNum msgs)[i] := by
  induction msgs generalizing k seqNum with
  | nil => exact fun i h => absurd h (Nat.not_lt_zero i)
  | cons p msgs ih =>
    obtain ⟨m, env⟩ := p
    intro i h
    cases i with
    | zero => exact whole_of_xmit k seqNum m env
    | succ i =>
      have hNext := ih i (Nat.lt_of_succ_lt_succ h)
      rwa [show k + 1 + i = k + (i + 1) by omega] at hNext

/-! ## The groups of frames -/

theorem retained_sublist (acc : List Tagged) (calls : List (RxEnv × Tagged)) :
    (retained acc calls).Sublist (acc ++ calls.map Prod.snd) := by
  induction calls generalizing acc with
  | nil => simp [retained]
  | cons call calls ih =>
    obtain ⟨env, t⟩ := call
    have hLater : (retained [] calls).Sublist (acc ++ t :: calls.map Prod.snd) :=
      (ih []).trans ((List.sublist_cons_self t _).trans (List.sublist_append_right _ _))
    have hNil : ([] : List Tagged).Sublist (acc ++ t :: calls.map Prod.snd) := List.nil_sublist _
    simp only [retained, List.map_cons]
    split
    · split
      · exact hLater
      · exact hNil
    · split
      · exact hLater
      · split
        · simpa using ih (acc ++ [t])
        · split
          · exact hNil
          · simpa using ((ih []).cons_cons t).append_left acc

theorem enqueued_dangling (calls : List (RxEnv × Tagged)) :
    enqueued .dangling [] calls = [] := by
  cases calls with
  | nil => rfl
  | cons call calls =>
    obtain ⟨env, t⟩ := call
    have hFault : serialLlRxHandler env .dangling t.frame = none := by
      unfold serialLlRxHandler
      split <;> rfl
    simp only [enqueued, hFault]

theorem serialLlRxHandler_inactive {env : RxEnv} (hActive : env.active = false)
    (acc : List UInt8) (f : Frame) :
    serialLlRxHandler env (.holding acc) f =
      some (if acc = [] then .null else .dangling, none) := by
  unfold serialLlRxHandler
  rw [if_pos (Or.inr hActive)]
  by_cases hAcc : acc = [] <;> simp [HostRxData.holding, hAcc, serialBuffCleanup]

/-- The enqueued buffers are the groups of the frames that are kept, with their bytes. -/
theorem enqueued_eq {acc : List Tagged} {calls : List (RxEnv × Tagged)}
    (hAcc : ∀ t ∈ acc, t.more = true ∧ t.frame.payload ≠ [])
    (hCalls : ∀ call ∈ calls, call.2.frame.payload ≠ []) :
    enqueued (.holding (bytes acc)) acc calls =
      (groups Tagged.more [] (retained acc calls)).map fun g => (g, .ofData (bytes g)) := by
  induction calls generalizing acc with
  | nil =>
    have hNone : groups Tagged.more [] (acc ++ []) = groups Tagged.more acc [] :=
      groups_marked (fun t ht => (hAcc t ht).1) []
    rw [List.append_nil] at hNone
    rw [retained, hNone, groups_nil]
    rfl
  | cons call calls ih =>
    obtain ⟨env, t⟩ := call
    have hNe : t.frame.payload ≠ [] := hCalls (env, t) (by simp)
    have hRest : ∀ call ∈ calls, call.2.frame.payload ≠ [] :=
      fun call h => hCalls call (by simp [h])
    have hFresh : enqueued (.holding (bytes [])) [] calls =
        (groups Tagged.more [] (retained [] calls)).map fun g => (g, .ofData (bytes g)) :=
      ih (by simp) hRest
    have hBytes : bytes acc ++ t.frame.payload = bytes (acc ++ [t]) := by
      rw [bytes_append, bytes_singleton]
    cases hActive : env.active with
    | false =>
      simp only [enqueued, serialLlRxHandler_inactive hActive, retained, hActive, if_true]
      by_cases hNil : acc = []
      · subst hNil
        exact hFresh
      · have hSome : bytes acc ≠ [] := by
          obtain ⟨a, rest, rfl⟩ := List.exists_cons_of_ne_nil hNil
          have hFirst := (hAcc a (by simp)).2
          simp [bytes, hFirst]
        rw [if_neg hSome, if_neg hNil]
        exact enqueued_dangling calls
    | true =>
      simp only [enqueued, serialLlRxHandler_active hActive _ hNe, collectFragment, retained,
        hActive, hBytes, Bool.true_eq_false, if_false]
      cases env.reallocOk with
      | false => exact hFresh
      | true =>
        simp only [Bool.not_true, Bool.false_eq_true, Bool.true_eq_false, if_false]
        cases hMore : t.frame.more with
        | true =>
          have hTag : t.more = true := hMore
          have hNext : ∀ a ∈ acc ++ [t], a.more = true ∧ a.frame.payload ≠ [] := by
            intro a ha
            rcases List.mem_append.mp ha with ha | ha
            · exact hAcc a ha
            · obtain rfl := List.mem_singleton.mp ha
              exact ⟨hMore, hNe⟩
          have hHold := holding_append (bytes acc) hNe
          simp only [hTag, if_true]
          rw [← ih hNext hRest, ← hBytes, hHold]
        | false =>
          have hTag : t.more = false := hMore
          simp only [hTag, Bool.false_eq_true, if_false]
          cases env.mallocOk with
          | false => exact enqueued_dangling calls
          | true =>
            simp only [Bool.not_true, Bool.false_eq_true, Bool.true_eq_false, if_false]
            rw [List.append_assoc, groups_marked fun a ha => (hAcc a ha).1, List.singleton_append,
              groups_last hTag, List.map_cons, ← hFresh, List.nil_append]
            rfl

/-! ## Every loss pattern -/

/-- A group with a frame of a message is that message or none. -/
theorem exact_group {sent : List SentMsg} (hWhole : ∀ i (h : i < sent.length), Whole i sent[i])
    {s : SentMsg} (hs : s ∈ sent) {g : List Tagged} (hg : ∃ t ∈ g, t ∈ s.frames) :
    Exact sent (g, .ofData (bytes g)) ↔ g = s.frames ∧ (bytes s.frames).length < 2 ^ 16 := by
  obtain ⟨i, hi, rfl⟩ := List.mem_iff_getElem.mp hs
  obtain ⟨t, ht, hMem⟩ := hg
  constructor
  · rintro ⟨s', hs', hEq⟩
    obtain ⟨j, hj, rfl⟩ := List.mem_iff_getElem.mp hs'
    simp only [Prod.mk.injEq, RxBuf.ofData, RxBuf.mk.injEq] at hEq
    obtain ⟨rfl, hBytes, hLen⟩ := hEq
    obtain rfl : i = j :=
      ((hWhole i hi).number t hMem).symm.trans ((hWhole j hj).number t ht)
    refine ⟨rfl, ?_⟩
    rw [← hBytes] at hLen
    have hLt := Nat.mod_lt (bytes sent[i].frames).length (show 0 < 2 ^ 16 by decide)
    omega
  · rintro ⟨rfl, hLen⟩
    refine ⟨sent[i], List.getElem_mem hi, ?_⟩
    rw [RxBuf.ofData, Nat.mod_eq_of_lt hLen, (hWhole i hi).whole]

theorem queued_sublist {sent : List SentMsg}
    (hWhole : ∀ i (h : i < sent.length), Whole i sent[i]) :
    (sent.flatMap (·.queued)).Sublist (sent.map (·.frames)).flatten := by
  have hEach : ∀ s ∈ sent, s.queued.Sublist s.frames := by
    intro s hs
    obtain ⟨i, hi, rfl⟩ := List.mem_iff_getElem.mp hs
    exact (hWhole i hi).queued
  clear hWhole
  induction sent with
  | nil => exact List.Sublist.slnil
  | cons s sent ih =>
    simp only [List.flatMap_cons, List.map_cons, List.flatten_cons]
    exact (hEach s (by simp)).append (ih fun t ht => hEach t (by simp [ht]))

/-- For every sequence of messages, every failure of the co-processor's sends, every loss of
frames, and whatever the allocations of the host do: all buffers that are enqueued are complete
messages exactly when all messages are intact in what is kept. -/
theorem exact_iff {seqNum : Nat} {msgs : List (Outgoing × XmitEnv)}
    {calls : List (RxEnv × Tagged)}
    (hLoss : (calls.map Prod.snd).Sublist ((slaveSends 0 seqNum msgs).flatMap (·.queued))) :
    (∀ e ∈ enqueued .null [] calls, Exact (slaveSends 0 seqNum msgs) e) ↔
      Intact (slaveSends 0 seqNum msgs) (retained [] calls) := by
  have hWhole : ∀ i (h : i < (slaveSends 0 seqNum msgs).length),
      Whole i (slaveSends 0 seqNum msgs)[i] := by
    intro i hi
    have h := slaveSends_whole i hi
    rwa [Nat.zero_add] at h
  generalize slaveSends 0 seqNum msgs = sent at hLoss hWhole
  have hArrived : (calls.map Prod.snd).Sublist (sent.map (·.frames)).flatten :=
    hLoss.trans (queued_sublist hWhole)
  have hKept : (retained [] calls).Sublist (sent.map (·.frames)).flatten :=
    (retained_sublist [] calls).trans hArrived
  have hNonempty : ∀ call ∈ calls, call.2.frame.payload ≠ [] := by
    intro call hCall
    have hMem := hArrived.subset (List.mem_map_of_mem hCall)
    obtain ⟨frames, hFrames, ht⟩ := List.mem_flatten.mp hMem
    obtain ⟨s, hs, rfl⟩ := List.mem_map.mp hFrames
    obtain ⟨i, hi, rfl⟩ := List.mem_iff_getElem.mp hs
    exact (hWhole i hi).nonempty _ ht
  have hEnqueued : enqueued (.holding (bytes [])) [] calls =
      (groups Tagged.more [] (retained [] calls)).map fun g => (g, .ofData (bytes g)) :=
    enqueued_eq (by simp) hNonempty
  have hNumber : ∀ i (h : i < (sent.map (·.frames)).length), ∀ t ∈ (sent.map (·.frames))[i],
      t.msg = i := by
    intro i hi t ht
    rw [List.getElem_map] at ht
    exact (hWhole i (by simpa using hi)).number t ht
  have hMarked : ∀ m ∈ sent.map (·.frames), Marked Tagged.more m := by
    intro m hm
    obtain ⟨s, hs, rfl⟩ := List.mem_map.mp hm
    obtain ⟨i, hi, rfl⟩ := List.mem_iff_getElem.mp hs
    exact (hWhole i hi).marked
  have hGood : ∀ m ∈ sent.map (·.frames), ∀ g, (∃ t ∈ g, t ∈ m) →
      (Exact sent (g, .ofData (bytes g)) ↔ g = m ∧ (bytes m).length < 2 ^ 16) := by
    intro m hm g hg
    obtain ⟨s, hs, rfl⟩ := List.mem_map.mp hm
    exact exact_group hWhole hs hg
  have hIff := groups_good_iff_numbered Tagged.msg hNumber hMarked hGood hKept
  rw [show HostRxData.null = .holding (bytes []) from rfl, hEnqueued, List.forall_mem_map, hIff]
  simp only [Intact, List.length_map, List.getElem_map]

/-! ## A lost last fragment -/

/-- All frames that were queued arrive, apart from those at the given positions. -/
def callsWithout (lost : List Nat) (msgs : List (Outgoing × XmitEnv)) : List (RxEnv × Tagged) :=
  (((slaveSends 0 0 msgs).flatMap (·.queued)).zipIdx.filter (·.2 ∉ lost)).map fun p =>
    (.ideal, p.1)

theorem callsWithout_sublist (lost : List Nat) (msgs : List (Outgoing × XmitEnv)) :
    ((callsWithout lost msgs).map Prod.snd).Sublist
      ((slaveSends 0 0 msgs).flatMap (·.queued)) := by
  have hSub := (List.filter_sublist (p := fun p => decide (p.2 ∉ lost))
    (l := ((slaveSends 0 0 msgs).flatMap (·.queued)).zipIdx)).map Prod.fst
  rw [List.zipIdx_map_fst] at hSub
  simpa [callsWithout, List.map_map, Function.comp_def] using hSub

/-- A response and an event, all sends succeeding. -/
def responseThenEvent (data : List UInt8) : List (Outgoing × XmitEnv) :=
  [(.response data, ⟨true, fun _ => true⟩), (.event [9], ⟨true, fun _ => true⟩)]

/-- A response of one frame that is lost does no harm to the event behind it. -/
theorem exact_iff_lostResponse :
    enqueued .null [] (callsWithout [0] (responseThenEvent [7])) ≠ [] ∧
      ∀ e ∈ enqueued .null [] (callsWithout [0] (responseThenEvent [7])),
        Exact (slaveSends 0 0 (responseThenEvent [7])) e := by
  refine ⟨by decide, (exact_iff (callsWithout_sublist _ _)).mpr ?_⟩
  intro i hi
  have hTwo : (slaveSends 0 0 (responseThenEvent [7])).length = 2 := rfl
  obtain rfl | rfl : i = 0 ∨ i = 1 := by omega
  · exact Or.inl rfl
  · exact Or.inr (Or.inl ⟨rfl, show 13 < 2 ^ 16 by decide⟩)

/-- The second and last frame of a response is lost; what is left of it is joined with the
event. -/
theorem not_exact :
    ¬ ∀ seqNum msgs calls,
      (calls.map Prod.snd).Sublist ((slaveSends 0 seqNum msgs).flatMap (·.queued)) →
      ∀ e ∈ enqueued .null [] calls, Exact (slaveSends 0 seqNum msgs) e := by
  intro h
  have hGroups : (enqueued .null [] (callsWithout [1] (responseThenEvent
      (List.replicate 1489 7)))).map (fun e => e.1.map (·.msg)) = [[0, 1]] := by decide +kernel
  obtain ⟨e, hEnqueued, hMsgs⟩ := List.map_eq_singleton_iff.mp hGroups
  obtain ⟨s, hs, hExact⟩ := h 0 _ _ (callsWithout_sublist [1] _) e (by rw [hEnqueued]; simp)
  obtain ⟨i, hi, rfl⟩ := List.mem_iff_getElem.mp hs
  have hOne : ∀ k ∈ e.1.map (·.msg), k = 0 + i := by
    intro k hk
    obtain ⟨t, ht, rfl⟩ := List.mem_map.mp hk
    rw [hExact] at ht
    exact (slaveSends_whole i hi).number t ht
  rw [hMsgs] at hOne
  have hZero := hOne 0 (by simp)
  have hNext := hOne 1 (by simp)
  omega

end EspHosted.Serial.Splice
