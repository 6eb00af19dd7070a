import EspHosted.Serial.HostTx
import EspHosted.Serial.SlaveRx

/-!
# Control path from the host to the co-processor

The frames of the messages that `h_serial_if_send` accepted arrive at the co-processor in
order. The invariant says which of the messages are where: handled, in the hands of
`pserial_task`, complete in `r`, or still to be put together from `r` and the frames to
come.

* `extracted_of_unhurried`: along steps of `Unhurried` the co-processor extracts the
  messages, whole and in order, and does not get stuck before the last one;
* `not_extracted`: a frame that arrives while a long message is still in `r` is cut.
-/

namespace EspHosted.Serial.HostToSlave

open Machine Fragments SlaveRx

/-! ## Where the messages are -/

/-- The message `pserial_task` has taken out of `r`. -/
def inHand : PserialPc → List (List UInt8)
  | .lenCleared data _ | .handling data _ => [data]
  | _ => []

def requests (queue : List SerialArg) : List (List UInt8) :=
  (queue.filter (!·.isEvent)).map (·.data)

/-- The complete message in `r`, if any, and the beginning of the next one. A complete
message belongs to a queued request, or to the request that `pserial_task` is taking. -/
def Buffered (s : SlaveRx) (pending : List (List UInt8)) (acc : List UInt8) : Prop :=
  match s.pserialPc with
  | .received data =>
    s.r.valid = true ∧ s.r.data = data ∧ requests s.reqQueue = [] ∧ pending = [data] ∧ acc = []
  | .validCleared data len =>
    s.r.valid = false ∧ len = data.length ∧ requests s.reqQueue = [] ∧ pending = [data] ∧
      acc = []
  | .idle | .lenCleared .. | .handling .. =>
    match s.r.valid with
    | true => requests s.reqQueue = [s.r.data] ∧ pending = [s.r.data] ∧ acc = []
    | false => requests s.reqQueue = [] ∧ pending = [] ∧ acc = s.r.data

def handled (msg : List UInt8) : Except ReqError (List UInt8 × List UInt8) :=
  rpcReqHandler msg msg.length

/-- `done` is handled, and the rest of the messages is on its way. -/
structure Inv (msgs : List (List UInt8)) (s : SlaveRx) (done pending : List (List UInt8))
    (acc : List UInt8) : Prop where
  whole : msgs = done ++ inHand s.pserialPc ++ pending ++
    collect acc ((s.recvPc.held ++ s.input).map Frame.piece)
  extracted : s.extracted = done.map handled
  buffered : Buffered s pending acc
  hand : ∀ data len, s.pserialPc = .lenCleared data len ∨ s.pserialPc = .handling data len →
    len = data.length
  curSeqNo : s.r.curSeqNo = 0
  seqNum : ∀ f ∈ s.recvPc.held ++ s.input, f.seqNum = 0
  terminated : Terminated ((s.recvPc.held ++ s.input).map Frame.piece)
  fits : ∀ f rem, s.recvPc = .entered f rem → f.payload.length ≤ rem
  nonempty : ∀ msg ∈ msgs, msg ≠ []

def Kept (msgs : List (List UInt8)) (s : SlaveRx) : Prop :=
  ∃ done pending acc, Inv msgs s done pending acc

variable {msgs : List (List UInt8)} {s s' : SlaveRx} {qMax : Nat}

theorem requests_append (q : List SerialArg) (arg : SerialArg) :
    requests (q ++ [arg]) = requests q ++ if arg.isEvent then [] else [arg.data] := by
  cases h : arg.isEvent <;> simp [requests, h]

theorem requests_cons (q : List SerialArg) (arg : SerialArg) :
    requests (arg :: q) = if arg.isEvent then requests q else arg.data :: requests q := by
  cases h : arg.isEvent <;> simp [requests, h]

/-- Outside of `serial_read_data` a clear `r.valid` means that `r` holds the beginning of
the next message. -/
theorem buffered_collecting {pending : List (List UInt8)} {acc : List UInt8}
    (h : Buffered s pending acc) (hValid : s.r.valid = false)
    (hTaking : s.pserialPc.clearing = false) :
    (∀ data, s.pserialPc ≠ .received data) ∧ requests s.reqQueue = [] ∧ pending = [] ∧
      acc = s.r.data := by
  unfold Buffered at h
  split at h
  · rw [hValid] at h
    cases h.1
  · rename_i hPc
    rw [hPc] at hTaking
    cases hTaking
  all_goals
    rename_i hPc
    rw [hValid] at h
    exact ⟨fun data hRecv => (by rw [hPc] at hRecv; cases hRecv), h⟩

/-- Rebuilds `Buffered` for a task outside of `serial_read_data`. -/
theorem buffered_of_outside {pending : List (List UInt8)} {acc : List UInt8}
    (hRecv : ∀ data, s.pserialPc ≠ .received data)
    (hTaking : s.pserialPc.clearing = false)
    (h : match s.r.valid with
      | true => requests s.reqQueue = [s.r.data] ∧ pending = [s.r.data] ∧ acc = []
      | false => requests s.reqQueue = [] ∧ pending = [] ∧ acc = s.r.data) :
    Buffered s pending acc := by
  unfold Buffered
  split
  · rename_i hPc
    exact absurd hPc (hRecv _)
  · rename_i hPc
    rw [hPc] at hTaking
    cases hTaking
  all_goals exact h

/-! ## Steps of the receive task -/

theorem noteSeqNo_zero {r : SlaveRxData} {f : Frame} (hSeq : f.seqNum = 0)
    (hCur : r.curSeqNo = 0) : noteSeqNo r f = r := by
  obtain ⟨valid, curSeqNo, data⟩ := r
  cases hCur
  simp [noteSeqNo, hSeq]

theorem recvFrame_kept (hKept : Kept msgs s) (hGuard : Unhurried s .recvFrame)
    (h : recvFrame s = some s') : Kept msgs s' := by
  obtain ⟨done, pending, acc, hInv⟩ := hKept
  unfold recvFrame at h
  split at h
  · rename_i f input hPc hInput
    cases h
    have hFits : s.r.data.length + f.payload.length ≤ rxDataSize := hGuard f (by rw [hInput]; rfl)
    refine ⟨done, pending, acc, ?_, hInv.extracted, hInv.buffered, hInv.hand, hInv.curSeqNo,
      ?_, ?_, ?_, hInv.nonempty⟩
    · simpa only [hPc, hInput, RecvPc.held, List.nil_append, List.singleton_append] using hInv.whole
    · simpa only [hPc, hInput, RecvPc.held, List.nil_append, List.singleton_append]
        using hInv.seqNum
    · simpa only [hPc, hInput, RecvPc.held, List.nil_append, List.singleton_append] using
        hInv.terminated
    · rintro g rem ⟨⟩
      omega
  · cases h

theorem acceptFrame_kept (hKept : Kept msgs s) (hGuard : Unhurried s (.acceptFrame true))
    (h : acceptFrame qMax true s = some s') : Kept msgs s' := by
  obtain ⟨done, pending, acc, hInv⟩ := hKept
  unfold acceptFrame at h
  split at h
  · rename_i f rem hPc
    split at h
    · cases h
    · rename_i hValid
      rw [Bool.not_eq_true] at hValid
      obtain ⟨hRecv, hReqs, rfl, rfl⟩ := buffered_collecting hInv.buffered hValid hGuard.2
      have hSeq : f.seqNum = 0 := hInv.seqNum f (by simp [hPc, RecvPc.held])
      have hTake : f.payload.take (min f.payload.length rem) = f.payload := by
        rw [Nat.min_eq_left (hInv.fits f rem hPc), List.take_length]
      have hSeqs : ∀ g ∈ RecvPc.idle.held ++ s.input, g.seqNum = 0 := fun g hg =>
        hInv.seqNum g (by simpa [hPc, RecvPc.held] using Or.inr hg)
      have hWhole := hInv.whole
      have hTerm := hInv.terminated
      simp only [hPc, RecvPc.held, List.singleton_append, List.map_cons, List.append_nil]
        at hWhole hTerm
      rw [noteSeqNo_zero hSeq hInv.curSeqNo, appendFrame,
        if_neg (fun hNe => hNe (hSeq.trans hInv.curSeqNo.symm)), hTake] at h
      cases hMore : f.more with
      | true =>
        simp only [hMore, if_true] at h
        cases h
        refine ⟨done, [], s.r.data ++ f.payload, ?_, hInv.extracted, ?_, hInv.hand, hInv.curSeqNo,
          hSeqs, hTerm.tail, fun g rem h => (by cases h), hInv.nonempty⟩
        · simpa only [Frame.piece, hMore, collect, RecvPc.held, List.nil_append, List.append_nil]
            using hWhole
        · exact buffered_of_outside hRecv hGuard.2 (by rw [hValid]; exact ⟨hReqs, rfl, rfl⟩)
      | false =>
        simp only [hMore, Bool.false_eq_true, if_false, parseProtobufReq, reduceCtorEq, and_false,
          send] at h
        split at h
        · cases h
          refine ⟨done, [s.r.data ++ f.payload], [], ?_, hInv.extracted, ?_, hInv.hand,
            hInv.curSeqNo, hSeqs, hTerm.tail, fun g rem h => (by cases h), hInv.nonempty⟩
          · simpa only [Frame.piece, hMore, collect, RecvPc.held, List.nil_append, List.append_nil,
              List.append_assoc, List.singleton_append] using hWhole
          · refine buffered_of_outside hRecv hGuard.2 ⟨?_, rfl, rfl⟩
            rw [requests_append, hReqs]
            rfl
        · cases h
  · cases h

/-! ## Steps of the request task -/

theorem event_kept {msgId : Nat} {data : List UInt8} (hKept : Kept msgs s)
    (h : step qMax s (.event msgId data) = some s') : Kept msgs s' := by
  obtain ⟨done, pending, acc, hInv⟩ := hKept
  simp only [step, send] at h
  split at h
  · rename_i hEvent
    split at h
    · cases h
      refine ⟨done, pending, acc, hInv.whole, hInv.extracted, ?_, hInv.hand, hInv.curSeqNo,
        hInv.seqNum, hInv.terminated, hInv.fits, hInv.nonempty⟩
      have hBuf := hInv.buffered
      unfold Buffered at hBuf ⊢
      simpa only [requests_append, hEvent, if_true, List.append_nil] using hBuf
    · cases h
  · cases h

theorem dequeue_kept (hKept : Kept msgs s) (h : dequeue s = some s') : Kept msgs s' := by
  obtain ⟨done, pending, acc, hInv⟩ := hKept
  unfold dequeue at h
  split at h
  · rename_i arg queue hPc hQueue
    have hBuf := hInv.buffered
    have hWhole := hInv.whole
    simp only [Buffered, hPc, hQueue, requests_cons] at hBuf
    simp only [hPc, inHand] at hWhole
    cases hEvent : arg.isEvent with
    | true =>
      simp only [hEvent, if_true] at h hBuf
      cases h
      exact ⟨done, pending, acc, hWhole, hInv.extracted, hBuf, fun _ _ h => by simp at h,
        hInv.curSeqNo, hInv.seqNum, hInv.terminated, hInv.fits, hInv.nonempty⟩
    | false =>
      simp only [hEvent, Bool.false_eq_true, if_false] at h hBuf
      cases h
      cases hValid : s.r.valid with
      | true =>
        simp only [hValid, List.cons.injEq] at hBuf
        obtain ⟨⟨hData, hReqs⟩, rfl, rfl⟩ := hBuf
        refine ⟨done, [s.r.data], [], hWhole, hInv.extracted, ?_, fun _ _ h => by simp at h,
          hInv.curSeqNo, hInv.seqNum, hInv.terminated, hInv.fits, hInv.nonempty⟩
        simp only [Buffered]
        exact ⟨hValid, hData.symm, hReqs, by rw [hData], trivial⟩
      | false => simp [hValid] at hBuf
  · cases h

theorem readData_kept (hKept : Kept msgs s) (h : readData s = some s') : Kept msgs s' := by
  obtain ⟨done, pending, acc, hInv⟩ := hKept
  unfold readData at h
  split at h
  · rename_i data hPc
    have hBuf := hInv.buffered
    have hWhole := hInv.whole
    simp only [Buffered, hPc] at hBuf
    obtain ⟨hValid, hData, hReqs, rfl, rfl⟩ := hBuf
    simp only [hPc, inHand] at hWhole
    simp only [hValid, if_true, hData, Nat.min_self, List.take_length, List.drop_length,
      List.append_nil] at h
    cases h
    exact ⟨done, [data], [], hWhole, hInv.extracted, ⟨rfl, rfl, hReqs, rfl, rfl⟩,
      fun _ _ h => by simp at h, hInv.curSeqNo, hInv.seqNum, hInv.terminated, hInv.fits,
      hInv.nonempty⟩
  · cases h

theorem clearLen_kept (hKept : Kept msgs s) (h : clearLen s = some s') : Kept msgs s' := by
  obtain ⟨done, pending, acc, hInv⟩ := hKept
  unfold clearLen at h
  split at h
  · rename_i data len hPc
    have hBuf := hInv.buffered
    have hWhole := hInv.whole
    simp only [Buffered, hPc] at hBuf
    obtain ⟨hValid, hLen, hReqs, rfl, rfl⟩ := hBuf
    simp only [hPc, inHand, List.append_nil] at hWhole
    cases h
    refine ⟨done, [], [], ?_, hInv.extracted, ?_, ?_, hInv.curSeqNo, hInv.seqNum, hInv.terminated,
      hInv.fits, hInv.nonempty⟩
    · simpa only [inHand, List.append_nil] using hWhole
    · simp only [Buffered, hValid]
      exact ⟨hReqs, trivial, trivial⟩
    · intro d l hd
      simp only [PserialPc.lenCleared.injEq, reduceCtorEq, or_false] at hd
      obtain ⟨rfl, rfl⟩ := hd
      exact hLen
  · cases h

theorem clearSeqNo_kept (hKept : Kept msgs s) (h : clearSeqNo s = some s') : Kept msgs s' := by
  obtain ⟨done, pending, acc, hInv⟩ := hKept
  unfold clearSeqNo at h
  split at h
  · rename_i data len hPc
    have hBuf := hInv.buffered
    have hWhole := hInv.whole
    simp only [Buffered, hPc] at hBuf
    simp only [hPc, inHand] at hWhole
    cases h
    refine ⟨done, pending, acc, hWhole, hInv.extracted, hBuf, ?_, rfl, hInv.seqNum, hInv.terminated,
      hInv.fits, hInv.nonempty⟩
    intro d l hd
    simp only [PserialPc.handling.injEq, reduceCtorEq, false_or] at hd
    obtain ⟨rfl, rfl⟩ := hd
    exact hInv.hand data len (Or.inl hPc)
  · cases h

theorem handleReq_kept (hKept : Kept msgs s) (h : handleReq s = some s') : Kept msgs s' := by
  obtain ⟨done, pending, acc, hInv⟩ := hKept
  unfold handleReq at h
  split at h
  · rename_i data len hPc
    have hBuf := hInv.buffered
    have hWhole := hInv.whole
    have hLen := hInv.hand data len (Or.inr hPc)
    simp only [Buffered, hPc] at hBuf
    simp only [hPc, inHand] at hWhole
    have hNe : data ≠ [] := hInv.nonempty data (by rw [hWhole]; simp)
    have hPos : 0 < data.length := List.length_pos_iff.mpr hNe
    rw [if_neg (by omega)] at h
    cases h
    refine ⟨done ++ [data], pending, acc, ?_, ?_, hBuf, fun _ _ h => by simp at h,
      hInv.curSeqNo, hInv.seqNum, hInv.terminated, hInv.fits, hInv.nonempty⟩
    · simpa only [inHand, List.append_nil] using hWhole
    · simp [hInv.extracted, handled, hLen]
  · cases h

/-! ## Whole runs -/

theorem step_kept {a : Action} (hKept : Kept msgs s) (hGuard : Unhurried s a)
    (h : step qMax s a = some s') : Kept msgs s' := by
  cases a with
  | recvFrame => exact recvFrame_kept hKept hGuard h
  | acceptFrame mallocOk =>
    obtain rfl : mallocOk = true := hGuard.1
    exact acceptFrame_kept hKept hGuard h
  | event msgId data => exact event_kept hKept h
  | dequeue => exact dequeue_kept hKept h
  | readData => exact readData_kept hKept h
  | clearLen => exact clearLen_kept hKept h
  | clearSeqNo => exact clearSeqNo_kept hKept h
  | handleReq => exact handleReq_kept hKept h

theorem init_kept (frames : List Frame) (hSeq : ∀ f ∈ frames, f.seqNum = 0)
    (hTerm : Terminated (frames.map Frame.piece))
    (hNe : ∀ msg ∈ collect [] (frames.map Frame.piece), msg ≠ []) :
    Kept (collect [] (frames.map Frame.piece)) (init frames) :=
  ⟨[], [], [], rfl, rfl, ⟨rfl, rfl, rfl⟩, fun _ _ h => by simp [init] at h, rfl, hSeq, hTerm,
    fun _ _ h => (by cases h), hNe⟩

/-- The requests handled so far are the first messages. -/
theorem Kept.extracted_le (hKept : Kept msgs s) : s.extracted <+: msgs.map handled := by
  obtain ⟨done, pending, acc, hInv⟩ := hKept
  rw [hInv.extracted, hInv.whole]
  simp only [List.map_append, List.append_assoc]
  exact List.prefix_append _ _

theorem Kept.extracted_of_done (hKept : Kept msgs s) (hDone : Done s) :
    s.extracted = msgs.map handled := by
  obtain ⟨done, pending, acc, hInv⟩ := hKept
  obtain ⟨hInput, hQueue, hHeld, hBusy⟩ := hDone
  have hPc : s.pserialPc = .idle := by
    cases h : s.pserialPc with
    | idle => rfl
    | received | validCleared | lenCleared | handling =>
      rw [h] at hBusy
      cases hBusy
  have hPending : pending = [] := by
    have hBuf := hInv.buffered
    simp only [Buffered, hPc, hQueue] at hBuf
    cases hValid : s.r.valid with
    | true => simp [hValid, requests] at hBuf
    | false =>
      rw [hValid] at hBuf
      exact hBuf.2.1
  rw [hInv.extracted, hInv.whole, hPc, hPending, hHeld, hInput]
  simp [inHand, collect]

/-- Before everything is handled, some step on the way is possible and unhurried. -/
theorem Kept.progress (hKept : Kept msgs s) (hMax : 0 < qMax)
    (hLen : ∀ msg ∈ msgs, msg.length ≤ rxDataSize) (hDone : ¬ Done s) :
    ∃ a s', a.OnPath ∧ Unhurried s a ∧ step qMax s a = some s' := by
  obtain ⟨done, pending, acc, hInv⟩ := hKept
  cases hPc : s.pserialPc with
  | received data =>
    refine ⟨.readData, ?_⟩
    simp only [step, readData, hPc]
    split <;> exact ⟨_, trivial, trivial, rfl⟩
  | validCleared data len =>
    exact ⟨.clearLen, _, trivial, trivial, by simp only [step, clearLen, hPc]; rfl⟩
  | lenCleared data len =>
    exact ⟨.clearSeqNo, _, trivial, trivial, by simp only [step, clearSeqNo, hPc]; rfl⟩
  | handling data len =>
    refine ⟨.handleReq, ?_⟩
    simp only [step, handleReq, hPc]
    split <;> exact ⟨_, trivial, trivial, rfl⟩
  | idle =>
    cases hQueue : s.reqQueue with
    | cons arg queue =>
      exact ⟨.dequeue, _, trivial, trivial, by simp only [step, dequeue, hPc, hQueue]; rfl⟩
    | nil =>
      -- nothing is pending, so `r` is free for the next frame
      have hTaking : s.pserialPc.clearing = false := by rw [hPc]; rfl
      have hValid : s.r.valid = false := by
        have hBuf := hInv.buffered
        simp only [Buffered, hPc, hQueue] at hBuf
        cases hValid : s.r.valid with
        | true => simp [hValid, requests] at hBuf
        | false => rfl
      cases hRecv : s.recvPc with
      | entered f rem =>
        refine ⟨.acceptFrame true, ?_⟩
        simp only [step, acceptFrame, hRecv, hValid, Bool.false_eq_true, if_false, appendFrame,
          parseProtobufReq, send, hQueue, List.length_nil, hMax, if_true, reduceCtorEq, and_false]
        split
        · exact ⟨_, trivial, ⟨rfl, hTaking⟩, rfl⟩
        · split <;> exact ⟨_, trivial, ⟨rfl, hTaking⟩, rfl⟩
      | idle =>
        cases hInput : s.input with
        | nil => exact absurd ⟨hInput, hQueue, by rw [hRecv]; rfl, by rw [hPc]; rfl⟩ hDone
        | cons f rest =>
          refine ⟨.recvFrame, _, trivial, ?_, by simp only [step, recvFrame, hRecv, hInput]; rfl⟩
          rintro g hg
          simp only [hInput, List.head?_cons, Option.mem_def, Option.some.injEq] at hg
          subst hg
          obtain ⟨-, -, -, rfl⟩ := buffered_collecting hInv.buffered hValid hTaking
          have hWhole := hInv.whole
          have hTerm := hInv.terminated
          simp only [hRecv, RecvPc.held, List.nil_append, hInput, List.map_cons] at hWhole hTerm
          obtain ⟨tail, rest', hEq⟩ := collect_terminated s.r.data hTerm
          have hMem : s.r.data ++ f.payload ++ tail ∈ msgs := by
            rw [hWhole, Frame.piece, hEq]
            simp
          have hLe := hLen _ hMem
          simp only [List.length_append] at hLe
          omega

/-! ## The path as a whole -/

/-- The host has sent the messages `datas`, every one of them accepted, as `frames`. -/
inductive Sent (t : Transport) : List (List UInt8) → List Frame → Prop
  | nil : Sent t [] []
  | cons {data : List UInt8} {datas : List (List UInt8)} {env : SendEnv}
      {frames rest : List Frame} :
      hSerialIfSend t env data data.length = some (frames, true) → Sent t datas rest →
      Sent t (data :: datas) (frames ++ rest)

theorem Sent.frames_eq {t : Transport} {datas : List (List UInt8)} {frames : List Frame}
    (hSent : Sent t datas frames) (hSizes : ∀ data ∈ datas, Fragmentable data) :
    frames = ((datas.map (tlv rpcEpNameRsp)).flatMap (fragments t.maxPayloadSize)).map
      hostFrame := by
  induction hSent with
  | nil => rfl
  | cons hSend _ ih =>
    rw [hSerialIfSend_accepted (hSizes _ (by simp)).2 hSend,
      ih fun data hData => hSizes data (by simp [hData])]
    simp

@[simp] theorem piece_hostFrame (piece : List UInt8 × Bool) : (hostFrame piece).piece = piece := by
  simp [Frame.piece, hostFrame]

theorem Sent.pieces {t : Transport} {datas : List (List UInt8)} {frames : List Frame}
    (hSent : Sent t datas frames) (hSizes : ∀ data ∈ datas, Fragmentable data) :
    frames.map Frame.piece =
      (datas.map (tlv rpcEpNameRsp)).flatMap (fragments t.maxPayloadSize) := by
  rw [hSent.frames_eq hSizes, List.map_map]
  exact List.map_id'' piece_hostFrame _

theorem Sent.kept {t : Transport} {datas : List (List UInt8)} {frames : List Frame}
    (hSent : Sent t datas frames) (hSizes : ∀ data ∈ datas, Fragmentable data) :
    Kept (datas.map (tlv rpcEpNameRsp)) (init frames) := by
  have hPieces := hSent.pieces hSizes
  have hCollect := collect_flatMap t.maxPayloadSize_pos (datas.map (tlv rpcEpNameRsp))
  have hKept := init_kept frames ?_ ?_ ?_
  · rwa [hPieces, hCollect] at hKept
  · rw [hSent.frames_eq hSizes]
    intro f hf
    obtain ⟨piece, -, rfl⟩ := List.mem_map.mp hf
    rfl
  · rw [hPieces]
    exact terminated_flatMap t.maxPayloadSize_pos _
  · rw [hPieces, hCollect]
    intro msg hMsg
    obtain ⟨data, -, rfl⟩ := List.mem_map.mp hMsg
    exact tlv_ne_nil _ _

/-- What the co-processor should extract. -/
def expected (datas : List (List UInt8)) : List (Except ReqError (List UInt8 × List UInt8)) :=
  datas.map fun data => .ok (rpcEpNameRsp, data)

theorem handled_tlv {data : List UInt8} (h : Fragmentable data) :
    handled (tlv rpcEpNameRsp data) = .ok (rpcEpNameRsp, data) := by
  obtain ⟨hPos, hLen⟩ := h
  have hEp : rpcEpNameRsp ≠ [] := by decide
  have hZero : ∀ b ∈ rpcEpNameRsp, b ≠ 0 := by simp [rpcEpNameRsp]
  have hEpLen : rpcEpNameRsp.length < epnameMax - 1 := by decide
  have hLt : data.length < 2 ^ 16 := by
    unfold maxFragmentablePayloadSize at hLen
    omega
  exact rpcReqHandler_tlv hEp hZero hEpLen (List.length_pos_iff.mp hPos) hLt

theorem handled_expected {datas : List (List UInt8)}
    (hSizes : ∀ data ∈ datas, Fragmentable data) :
    (datas.map (tlv rpcEpNameRsp)).map handled = expected datas := by
  unfold expected
  induction datas with
  | nil => rfl
  | cons data datas ih =>
    simp only [List.mem_cons, forall_eq_or_imp] at hSizes
    simp only [List.map_cons, handled_tlv hSizes.1, ih hSizes.2]

/-- Host to co-processor: along unhurried steps, for every sequence of accepted messages, the
requests extracted so far are the first messages, with endpoint and data as they were sent;
all of them when everything is done; and before that some unhurried step is possible. -/
theorem extracted_of_unhurried {t : Transport} {esp32c2 : Bool} {datas : List (List UInt8)}
    {frames : List Frame} {s : SlaveRx} (hSizes : ∀ data ∈ datas, Fragmentable data)
    (hSent : Sent t datas frames)
    (hRun : Reaches (step (reqQMax esp32c2)) Unhurried (init frames) s) :
    s.extracted <+: expected datas ∧ (Done s → s.extracted = expected datas) ∧
      (¬ Done s → ∃ a s', a.OnPath ∧ Unhurried s a ∧
        step (reqQMax esp32c2) s a = some s') := by
  have hKept : Kept (datas.map (tlv rpcEpNameRsp)) s :=
    hRun.invariant (hSent.kept hSizes) fun _ _ _ hKept hGuard hStep =>
      step_kept hKept hGuard hStep
  have hMax : 0 < reqQMax esp32c2 := by cases esp32c2 <;> decide
  rw [← handled_expected hSizes]
  refine ⟨hKept.extracted_le, hKept.extracted_of_done, hKept.progress hMax ?_⟩
  intro msg hMsg
  obtain ⟨data, hData, rfl⟩ := List.mem_map.mp hMsg
  have hLen := (hSizes data hData).2
  have hEp : rpcEpNameRsp.length = 6 := rfl
  rw [length_tlv]
  unfold maxFragmentablePayloadSize at hLen
  unfold rxDataSize
  omega

/-! ## A long message followed by another -/

theorem sent_ideal (t : Transport) {datas : List (List UInt8)}
    (hSizes : ∀ data ∈ datas, Fragmentable data) : ∃ frames, Sent t datas frames := by
  induction datas with
  | nil => exact ⟨[], .nil⟩
  | cons data datas ih =>
    obtain ⟨rest, hRest⟩ := ih fun d hd => hSizes d (by simp [hd])
    obtain ⟨hPos, hLen⟩ := hSizes data (by simp)
    obtain ⟨frames, hFrames⟩ := hSerialIfSend_ideal t hPos hLen
    exact ⟨frames ++ rest, .cons hFrames hRest⟩

/-- The frames of the messages `datas` over SDIO. -/
def sdioFrames (datas : List (List UInt8)) : List Frame :=
  ((datas.map (tlv rpcEpNameRsp)).flatMap (fragments Transport.sdio.maxPayloadSize)).map hostFrame

theorem sent_sdioFrames {datas : List (List UInt8)}
    (hSizes : ∀ data ∈ datas, Fragmentable data) : Sent .sdio datas (sdioFrames datas) := by
  obtain ⟨frames, hSent⟩ := sent_ideal .sdio hSizes
  have hEq := hSent.frames_eq hSizes
  unfold sdioFrames
  rwa [← hEq]

/-- The actions of `pserial_task` for one request. -/
def serve : List Action := [.dequeue, .readData, .clearLen, .clearSeqNo, .handleReq]

/-- Two short messages, the second one arriving while the first waits in the queue. -/
def shortSchedule : List Action :=
  ([.recvFrame, .acceptFrame true, .recvFrame] : List Action) ++ serve ++
    ([.acceptFrame true] : List Action) ++ serve

theorem extracted_of_unhurried_short :
    ∃ s, runGuarded (step (reqQMax false)) Unhurried (init (sdioFrames [[7], [9]]))
        shortSchedule = some s ∧ Done s ∧ s.extracted = expected [[7], [9]] := by
  have hSizes : ∀ data ∈ [[7], [9]], Fragmentable data := by
    simp [Fragmentable, maxFragmentablePayloadSize]
  have hRun : ∃ s, runGuarded (step (reqQMax false)) Unhurried (init (sdioFrames [[7], [9]]))
      shortSchedule = some s ∧ Done s := ⟨_, rfl, rfl, rfl, rfl, rfl⟩
  obtain ⟨s, hs, hDone⟩ := hRun
  exact ⟨s, hs, hDone,
    (extracted_of_unhurried hSizes (sent_sdioFrames hSizes) (.of_run hs)).2.1 hDone⟩

/-- The longest message there is and a short one. -/
def longThenShort : List (List UInt8) := [List.replicate 8180 7, [9]]

/-- The frame of the short message arrives while the long one is still in `r`. -/
def hurriedSchedule : List Action :=
  (List.replicate 6 ([.recvFrame, .acceptFrame true] : List Action)).flatten ++
    ([.recvFrame] : List Action) ++ serve ++ ([.acceptFrame true] : List Action) ++ serve

theorem fragmentable_longThenShort : ∀ data ∈ longThenShort, Fragmentable data := by
  intro data hData
  rcases List.mem_cons.mp hData with rfl | hData
  · simp only [Fragmentable, List.length_replicate]
    decide
  · obtain rfl := List.mem_singleton.mp hData
    decide

/-- Of the two messages the co-processor extracts one: the other was cut to nothing, since
`rem_buff_size` was computed from the length of the first. -/
theorem not_extracted :
    ¬ ∀ datas frames s, (∀ data ∈ datas, Fragmentable data) → Sent .sdio datas frames →
      Reaches (step (reqQMax false)) anyStep (init frames) s → Done s →
      s.extracted = expected datas := by
  intro h
  have hRun : (run (step (reqQMax false)) (init (sdioFrames longThenShort))
      hurriedSchedule).map (fun s => (s.input.length, s.reqQueue.length, s.recvPc.held.length,
        s.pserialPc.busy, s.extracted.length)) = some (0, 0, 0, false, 1) := by decide +kernel
  obtain ⟨s, hs, hFinal⟩ := Option.map_eq_some_iff.mp hRun
  simp only [Prod.mk.injEq, List.length_eq_zero_iff] at hFinal
  obtain ⟨hInput, hQueue, hHeld, hBusy, hOne⟩ := hFinal
  have hEq := h _ _ s fragmentable_longThenShort (sent_sdioFrames fragmentable_longThenShort)
    (.of_plain_run hs) ⟨hInput, hQueue, hHeld, hBusy⟩
  rw [hEq, expected, List.length_map] at hOne
  exact absurd hOne (by decide)

end EspHosted.Serial.HostToSlave
