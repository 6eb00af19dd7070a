import EspHosted.Serial.SlaveRx

/-!
# Handing a request over on the co-processor

`recv_task` sets `r.valid` when a message is complete in `r`, and then has
`protocomm_pserial_data_ready` queue a copy of it for `pserial_task`. It does not look at the
result. `pserial_task` takes the copy from the queue and clears `r.valid`, `r.len` and
`r.cur_seq_no` in `serial_read_data`. Until then `recv_task` waits with the next frame.

The steps are finer than those of the receive path: the copy is made before it is queued, and
both may fail.

* `step_inv`: along the steps of `Careful`, `r` is valid exactly while one copy of it is on its
  way;
* `handed_over`: so each request is handled once, with its own bytes;
* `copyReq_failed`, `sendReq_failed`: a hand-over that fails leaves `r` valid without a copy;
* `stuck_forever`: `r` stays so, and `recv_task` waits for ever.
-/

namespace EspHosted.Serial.HandOver

open Machine SlaveRx

/-! ## Model -/

/-- Where `recv_task` is: between frames, inside `process_serial_rx_pkt` with `rem_buff_size`
computed, before the copy is made, before it is queued. -/
inductive HandPc
  | idle
  | entered (frame : Frame) (remBuffSize : Nat)
  | handing
  | sending (copy : List UInt8)

/-- `reassembled` are the messages for which `parse_protobuf_req` was called, and `handled` the
requests that `rpc_req_handler` was called for. -/
structure State where
  input : List Frame
  r : SlaveRxData
  reqQueue : List SerialArg
  recvPc : HandPc
  pserialPc : PserialPc
  reassembled : List (List UInt8)
  handled : List (List UInt8)

def boot (frames : List Frame) : State :=
  { input := frames, r := ⟨false, 0, []⟩, reqQueue := [], recvPc := .idle, pserialPc := .idle,
    reassembled := [], handled := [] }

inductive Action
  | recvFrame
  | acceptFrame
  | copyReq (mallocOk : Bool)
  | sendReq (queueOk : Bool)
  | event (msgId : Nat) (data : List UInt8)
  | dequeue
  | readData
  | clearLen
  | clearSeqNo
  | handleReq
  deriving DecidableEq

/-- The start of `process_serial_rx_pkt`. -/
def recvFrame (s : State) : Option State :=
  match s.recvPc, s.input with
  | .idle, f :: input =>
    some { s with input, recvPc := .entered f (rxDataSize - s.r.data.length) }
  | _, _ => none

/-- `process_serial_rx_pkt` behind its wait, up to the call of `parse_protobuf_req`. -/
def acceptFrame (s : State) : Option State :=
  match s.recvPc with
  | .entered f remBuffSize =>
    if s.r.valid then none
    else
      let r := noteSeqNo s.r f
      if f.seqNum ≠ r.curSeqNo then
        some { s with r := { r with valid := true }, recvPc := .handing
                      reassembled := s.reassembled ++ [r.data] }
      else
        let data := r.data ++ f.payload.take (min f.payload.length remBuffSize)
        if f.more then some { s with r := { r with data }, recvPc := .idle }
        else
          some { s with r := { r with valid := true, data }, recvPc := .handing
                        reassembled := s.reassembled ++ [data] }
  | _ => none

/-- The copy in `protocomm_pserial_data_ready`. -/
def copyReq (s : State) (mallocOk : Bool) : Option State :=
  match s.recvPc with
  | .handing =>
    if s.r.data.length ≠ 0 ∧ mallocOk = false then some { s with recvPc := .idle }
    else some { s with recvPc := .sending s.r.data }
  | _ => none

/-- `xQueueSend`, which waits until there is room. -/
def sendReq (qMax : Nat) (s : State) (queueOk : Bool) : Option State :=
  match s.recvPc with
  | .sending copy =>
    if queueOk = false then some { s with recvPc := .idle }
    else if s.reqQueue.length < qMax then
      some { s with reqQueue := s.reqQueue ++ [⟨unknownRpcMsgId, copy⟩], recvPc := .idle }
    else none
  | _ => none

/-- An event of the co-processor that another task queues. -/
def event (qMax : Nat) (s : State) (msgId : Nat) (data : List UInt8) : Option State :=
  if (SerialArg.mk msgId data).isEvent ∧ s.reqQueue.length < qMax then
    some { s with reqQueue := s.reqQueue ++ [⟨msgId, data⟩] }
  else none

/-- `pserial_task` takes the next item; events do not concern `r`. -/
def dequeue (s : State) : Option State :=
  match s.pserialPc, s.reqQueue with
  | .idle, arg :: reqQueue =>
    some { s with reqQueue, pserialPc := if arg.isEvent then .idle else .received arg.data }
  | _, _ => none

/-- `serial_read_data` up to `r.valid = 0`. Nothing is copied unless `r` is valid. -/
def readData (s : State) : Option State :=
  match s.pserialPc with
  | .received data =>
    let len := min data.length s.r.data.length
    if s.r.valid then
      some { s with
        r := { s.r with valid := false }
        pserialPc := .validCleared (s.r.data.take len ++ data.drop len) len }
    else some { s with pserialPc := .handling data len }
  | _ => none

def clearLen (s : State) : Option State :=
  match s.pserialPc with
  | .validCleared data len =>
    some { s with r := { s.r with data := [] }, pserialPc := .lenCleared data len }
  | _ => none

def clearSeqNo (s : State) : Option State :=
  match s.pserialPc with
  | .lenCleared data len =>
    some { s with r := { s.r with curSeqNo := 0 }, pserialPc := .handling data len }
  | _ => none

/-- `rpc_req_handler`, called when `serial_read_data` returned a length. -/
def handleReq (s : State) : Option State :=
  match s.pserialPc with
  | .handling data len =>
    if len = 0 then some { s with pserialPc := .idle }
    else some { s with pserialPc := .idle, handled := s.handled ++ [data.take len] }
  | _ => none

def step (qMax : Nat) (s : State) : Action → Option State
  | .recvFrame => recvFrame s
  | .acceptFrame => acceptFrame s
  | .copyReq mallocOk => copyReq s mallocOk
  | .sendReq queueOk => sendReq qMax s queueOk
  | .event msgId data => event qMax s msgId data
  | .dequeue => dequeue s
  | .readData => readData s
  | .clearLen => clearLen s
  | .clearSeqNo => clearSeqNo s
  | .handleReq => handleReq s

/-! ## Requests on their way -/

/-- No hand-over fails, and `recv_task` does not leave its wait between `r.valid = 0` and
`r.len = 0`. -/
def Careful (s : State) : Action → Prop
  | .acceptFrame => s.pserialPc.clearing = false
  | .copyReq mallocOk => s.r.data.length = 0 ∨ mallocOk = true
  | .sendReq queueOk => queueOk = true
  | _ => True

instance (s : State) : (a : Action) → Decidable (Careful s a)
  | .acceptFrame => inferInstanceAs (Decidable (_ = false))
  | .copyReq _ => inferInstanceAs (Decidable (_ ∨ _))
  | .sendReq _ => inferInstanceAs (Decidable (_ = true))
  | .recvFrame | .event .. | .dequeue | .readData | .clearLen | .clearSeqNo | .handleReq =>
    .isTrue trivial

/-- The request that `recv_task` is about to queue. -/
def handed (r : SlaveRxData) : HandPc → List (List UInt8)
  | .handing => [r.data]
  | .sending copy => [copy]
  | _ => []

/-- The requests in the queue. -/
def requests (queue : List SerialArg) : List (List UInt8) :=
  (queue.filter (!·.isEvent)).map (·.data)

/-- The request in the hands of `pserial_task`, before `r.valid` is cleared. -/
def received : PserialPc → List (List UInt8)
  | .received data => [data]
  | _ => []

/-- The request in the hands of `pserial_task` from then on. -/
def taken : PserialPc → List (List UInt8)
  | .validCleared data len | .lenCleared data len | .handling data len => [data.take len]
  | _ => []

/-- The copies of requests that are queued for `pserial_task`, are about to be, or have just been
received. -/
def State.copies (s : State) : List (List UInt8) :=
  received s.pserialPc ++ requests s.reqQueue ++ handed s.r s.recvPc

/-- `r` is valid exactly while one copy of it is on its way. The requests that were handled, with
those on their way, are the reassembled ones in order; a request of length 0 is not handled. -/
structure HandedOver (s : State) : Prop where
  valid : s.copies = if s.r.valid then [s.r.data] else []
  once : s.handled ++ (taken s.pserialPc ++ s.copies).filter (· ≠ []) =
    s.reassembled.filter (· ≠ [])

/-- The length that `serial_read_data` returns is within the copy. -/
def Within : PserialPc → Prop
  | .validCleared data len | .lenCleared data len | .handling data len => len ≤ data.length
  | _ => True

structure Inv (s : State) : Prop where
  handedOver : HandedOver s
  clearing : s.pserialPc.clearing = true → s.r.valid = false
  within : Within s.pserialPc

theorem boot_inv (frames : List Frame) : Inv (boot frames) :=
  ⟨⟨rfl, rfl⟩, nofun, trivial⟩

theorem noteSeqNo_eq (r : SlaveRxData) (f : Frame) :
    (noteSeqNo r f).valid = r.valid ∧ (noteSeqNo r f).data = r.data := by
  unfold noteSeqNo
  split <;> exact ⟨rfl, rfl⟩

variable {qMax : Nat} {s s' : State}

/-- A step that leaves the message, its copies and what was handled as they were. -/
structure Kept (s s' : State) : Prop where
  copies : s'.copies = s.copies
  valid : s'.r.valid = s.r.valid
  data : s'.r.data = s.r.data
  reassembled : s'.reassembled = s.reassembled
  handled : s'.handled = s.handled
  taken : taken s'.pserialPc = taken s.pserialPc

theorem HandedOver.kept (h : HandedOver s) (hKept : Kept s s') : HandedOver s' := by
  refine ⟨?_, ?_⟩
  · rw [hKept.copies, hKept.valid, hKept.data]
    exact h.valid
  · rw [hKept.copies, hKept.handled, hKept.taken, hKept.reassembled]
    exact h.once

theorem HandedOver.none (h : HandedOver s) (hValid : s.r.valid = false) : s.copies = [] := by
  rw [h.valid, hValid]
  rfl

/-- Clearing the message leaves no copy of it behind if there was none. -/
theorem copies_cleared (data : List UInt8) (len : Nat) (hNone : s.copies = []) :
    State.copies { s with
      r := { s.r with data := [] }, pserialPc := .lenCleared data len } = [] := by
  simp only [State.copies, List.append_eq_nil_iff] at hNone ⊢
  refine ⟨⟨rfl, hNone.1.2⟩, ?_⟩
  cases hRecv : s.recvPc <;> simp [hRecv, handed] at hNone ⊢

theorem recvFrame_kept (hStep : recvFrame s = some s') :
    Kept s s' ∧ s'.pserialPc = s.pserialPc := by
  unfold recvFrame at hStep
  split at hStep
  · rename_i hPc hInput
    cases hStep
    refine ⟨⟨?_, rfl, rfl, rfl, rfl, rfl⟩, rfl⟩
    simp only [State.copies, hPc, handed]
  · cases hStep

/-- The copy is made of the message in `r`. -/
theorem copyReq_kept {mallocOk : Bool} (hGuard : Careful s (.copyReq mallocOk))
    (hStep : copyReq s mallocOk = some s') : Kept s s' ∧ s'.pserialPc = s.pserialPc := by
  have hMade : ¬(s.r.data.length ≠ 0 ∧ mallocOk = false) := by
    rintro ⟨hLen, rfl⟩
    exact hGuard.elim hLen Bool.noConfusion
  unfold copyReq at hStep
  split at hStep
  · rename_i hPc
    rw [if_neg hMade] at hStep
    cases hStep
    refine ⟨⟨?_, rfl, rfl, rfl, rfl, rfl⟩, rfl⟩
    simp only [State.copies, hPc, handed]
  · cases hStep

theorem sendReq_kept {queueOk : Bool} (hGuard : Careful s (.sendReq queueOk))
    (hStep : sendReq qMax s queueOk = some s') : Kept s s' ∧ s'.pserialPc = s.pserialPc := by
  obtain rfl : queueOk = true := hGuard
  unfold sendReq at hStep
  split at hStep
  · rename_i copy hPc
    rw [if_neg Bool.noConfusion] at hStep
    split at hStep
    · cases hStep
      have hRequest : requests (s.reqQueue ++ [⟨unknownRpcMsgId, copy⟩]) =
          requests s.reqQueue ++ [copy] := by
        simp [requests, SerialArg.isEvent, unknownRpcMsgId, rpcIdEventBase]
      refine ⟨⟨?_, rfl, rfl, rfl, rfl, rfl⟩, rfl⟩
      simp only [State.copies, hPc, handed, hRequest, List.append_nil, List.append_assoc]
    · cases hStep
  · cases hStep

theorem event_kept {msgId : Nat} {data : List UInt8} (hStep : event qMax s msgId data = some s') :
    Kept s s' ∧ s'.pserialPc = s.pserialPc := by
  unfold event at hStep
  split at hStep
  · rename_i hEvent
    cases hStep
    have hRequest : requests (s.reqQueue ++ [⟨msgId, data⟩]) = requests s.reqQueue := by
      simp [requests, hEvent.1]
    refine ⟨⟨?_, rfl, rfl, rfl, rfl, rfl⟩, rfl⟩
    simp only [State.copies, hRequest]
  · cases hStep

/-- A request goes from the queue into the hands of the task. -/
theorem dequeue_kept (hStep : dequeue s = some s') : Kept s s' ∧ taken s'.pserialPc = [] ∧
    s'.pserialPc.clearing = false := by
  unfold dequeue at hStep
  split at hStep
  · rename_i arg reqQueue hPc hQueue
    cases hStep
    have hCopies : State.copies { s with
        reqQueue, pserialPc := if arg.isEvent then .idle else .received arg.data } = s.copies := by
      cases hEvent : arg.isEvent <;>
        simp [State.copies, hPc, hQueue, received, requests, hEvent]
    have hTaken : taken (if arg.isEvent then .idle else .received arg.data) = [] := by
      split <;> rfl
    refine ⟨⟨hCopies, rfl, rfl, rfl, rfl, ?_⟩, hTaken, ?_⟩
    · rw [hPc]
      exact hTaken
    · simp only
      split <;> rfl
  · cases hStep

/-- The sequence number is not part of the message. -/
theorem clearSeqNo_kept (hStep : clearSeqNo s = some s') :
    Kept s s' ∧ s'.pserialPc.clearing = false ∧ (Within s.pserialPc → Within s'.pserialPc) := by
  unfold clearSeqNo at hStep
  split at hStep
  · rename_i data len hPc
    cases hStep
    rw [hPc]
    refine ⟨⟨?_, rfl, rfl, rfl, rfl, ?_⟩, rfl, id⟩
    · simp only [State.copies, hPc, received]
      cases s.recvPc <;> rfl
    · rw [hPc]
      rfl
  · cases hStep

/-! ## The steps -/

theorem Inv.kept (h : Inv s) (hStep : Kept s s' ∧ s'.pserialPc = s.pserialPc) : Inv s' := by
  refine ⟨h.handedOver.kept hStep.1, ?_, ?_⟩
  · rw [hStep.2, hStep.1.valid]
    exact h.clearing
  · rw [hStep.2]
    exact h.within

/-- The message in `r` is complete, and there is no other request. -/
theorem complete_inv (r : SlaveRxData) (data : List UInt8) (h : Inv s)
    (hValid : s.r.valid = false) (hGuard : s.pserialPc.clearing = false)
    (hPc : handed s.r s.recvPc = []) :
    Inv { s with r := { r with valid := true, data }, recvPc := .handing,
                 reassembled := s.reassembled ++ [data] } := by
  have hNone := h.handedOver.none hValid
  have hEmpty : received s.pserialPc ++ requests s.reqQueue = [] := by
    rw [State.copies, hPc, List.append_nil] at hNone
    exact hNone
  refine ⟨⟨?_, ?_⟩, fun hClearing => ?_, h.within⟩
  · simp only [State.copies, hEmpty, handed, List.nil_append, if_true]
  · have hOnce := h.handedOver.once
    rw [hNone, List.append_nil] at hOnce
    simp only [State.copies, hEmpty, handed, List.nil_append, List.filter_append]
    rw [← hOnce, List.append_assoc]
  · rw [hGuard] at hClearing
    cases hClearing

theorem acceptFrame_inv (h : Inv s) (hGuard : Careful s .acceptFrame)
    (hStep : acceptFrame s = some s') : Inv s' := by
  unfold acceptFrame at hStep
  split at hStep
  · rename_i f rem hPc
    split at hStep
    · cases hStep
    · rename_i hValid
      rw [Bool.not_eq_true] at hValid
      have hHanded : handed s.r s.recvPc = [] := by rw [hPc]; rfl
      obtain ⟨hKeep, hData⟩ := noteSeqNo_eq s.r f
      simp only at hStep
      split at hStep
      · cases hStep
        exact complete_inv (noteSeqNo s.r f) (noteSeqNo s.r f).data h hValid hGuard hHanded
      · split at hStep
        · cases hStep
          have hNone := h.handedOver.none hValid
          have hOnce := h.handedOver.once
          have hQueue : received s.pserialPc ++ requests s.reqQueue = [] := by
            rw [State.copies, hHanded, List.append_nil] at hNone
            exact hNone
          refine ⟨⟨?_, ?_⟩, fun _ => hKeep.trans hValid, h.within⟩
          · simp only [State.copies, handed, hKeep, hValid, hQueue, List.append_nil,
              Bool.false_eq_true, if_false]
          · rw [hNone] at hOnce
            simpa only [State.copies, handed, hQueue, List.append_nil] using hOnce
        · cases hStep
          exact complete_inv (noteSeqNo s.r f) _ h hValid hGuard hHanded
  · cases hStep

theorem dequeue_inv (h : Inv s) (hStep : dequeue s = some s') : Inv s' := by
  obtain ⟨hKept, hTaken, hClearing⟩ := dequeue_kept hStep
  refine ⟨h.handedOver.kept hKept, fun hTrue => ?_, ?_⟩
  · rw [hClearing] at hTrue
    cases hTrue
  · cases hPc : s'.pserialPc <;> first | trivial | (rw [hPc] at hTaken; cases hTaken)

/-- The copy that was received is that of the message in `r`. -/
theorem readData_inv (h : Inv s) (hStep : readData s = some s') : Inv s' := by
  unfold readData at hStep
  split at hStep
  · rename_i data hPc
    have hValid := h.handedOver.valid
    simp only [State.copies, hPc, received, List.cons_append, List.nil_append] at hValid
    cases hFlag : s.r.valid with
    | false => simp [hFlag] at hValid
    | true =>
      rw [hFlag, if_pos rfl] at hValid
      obtain ⟨rfl, hRest⟩ := List.cons.inj hValid
      simp only [hFlag, if_true, Nat.min_self, List.take_length, List.drop_length,
        List.append_nil] at hStep
      cases hStep
      refine ⟨⟨?_, ?_⟩, fun _ => rfl, Nat.le_refl _⟩
      · simp only [State.copies, received, List.nil_append, Bool.false_eq_true, if_false]
        exact hRest
      · have hOnce := h.handedOver.once
        simp only [State.copies, hPc, received, taken, List.nil_append, List.cons_append,
          List.take_length] at hOnce ⊢
        exact hOnce
  · cases hStep

/-- There is no copy of what is cleared. -/
theorem clearLen_inv (h : Inv s) (hStep : clearLen s = some s') : Inv s' := by
  unfold clearLen at hStep
  split at hStep
  · rename_i data len hPc
    cases hStep
    have hValid : s.r.valid = false := h.clearing (by rw [hPc]; rfl)
    have hNone := h.handedOver.none hValid
    have hCleared := copies_cleared data len hNone
    have hOnce := h.handedOver.once
    rw [hNone, hPc] at hOnce
    refine ⟨⟨?_, ?_⟩, nofun, ?_⟩
    · rw [hCleared]
      simp only [hValid, Bool.false_eq_true, if_false]
    · rw [hCleared]
      exact hOnce
    · have hWithin := h.within
      rw [hPc] at hWithin
      exact hWithin
  · cases hStep

theorem clearSeqNo_inv (h : Inv s) (hStep : clearSeqNo s = some s') : Inv s' := by
  obtain ⟨hKept, hClearing, hWithin⟩ := clearSeqNo_kept hStep
  refine ⟨h.handedOver.kept hKept, fun hTrue => ?_, hWithin h.within⟩
  rw [hClearing] at hTrue
  cases hTrue

theorem handleReq_inv (h : Inv s) (hStep : handleReq s = some s') : Inv s' := by
  unfold handleReq at hStep
  split at hStep
  · rename_i data len hPc
    have hOnce := h.handedOver.once
    have hWithin := h.within
    have hValid := h.handedOver.valid
    simp only [State.copies, hPc, received, taken, Within, List.nil_append] at hOnce hWithin hValid
    split at hStep
    · -- A request of length 0 is not handled.
      rename_i hLen
      cases hStep
      refine ⟨⟨hValid, ?_⟩, nofun, trivial⟩
      simpa [State.copies, received, taken, hLen] using hOnce
    · rename_i hLen
      cases hStep
      have hSome : data.take len ≠ [] := by
        rw [ne_eq, List.take_eq_nil_iff, not_or]
        refine ⟨hLen, fun hNil => hLen ?_⟩
        rw [hNil] at hWithin
        exact Nat.le_zero.mp hWithin
      refine ⟨⟨hValid, ?_⟩, nofun, trivial⟩
      simpa [State.copies, received, taken, hSome] using hOnce
  · cases hStep

theorem step_inv {a : Action} (h : Inv s) (hGuard : Careful s a)
    (hStep : step qMax s a = some s') : Inv s' := by
  cases a with
  | recvFrame => exact h.kept (recvFrame_kept hStep)
  | acceptFrame => exact acceptFrame_inv h hGuard hStep
  | copyReq mallocOk => exact h.kept (copyReq_kept hGuard hStep)
  | sendReq queueOk => exact h.kept (sendReq_kept hGuard hStep)
  | event msgId data => exact h.kept (event_kept hStep)
  | dequeue => exact dequeue_inv h hStep
  | readData => exact readData_inv h hStep
  | clearLen => exact clearLen_inv h hStep
  | clearSeqNo => exact clearSeqNo_inv h hStep
  | handleReq => exact handleReq_inv h hStep

/-- `r` is valid exactly while one copy of it is on its way, and each reassembled request is
handled once, with its own bytes. -/
theorem handed_over {frames : List Frame} (hRun : Reaches (step qMax) Careful (boot frames) s) :
    HandedOver s :=
  (hRun.invariant (boot_inv frames) fun _ _ _ h hGuard hStep => step_inv h hGuard hStep).handedOver

/-- One request is handed over, and the next frame has to wait for it. -/
def handFirst : List Action := [.recvFrame, .acceptFrame, .copyReq true, .sendReq true, .recvFrame]

/-- The first request is handled, then the second one is handed over and handled. -/
def handleBoth : List Action :=
  [.dequeue, .readData, .clearLen, .clearSeqNo, .handleReq, .acceptFrame, .copyReq true,
    .sendReq true, .dequeue, .readData, .clearLen, .clearSeqNo, .handleReq]

theorem handed_over_waiting : ∃ m s,
    Reaches (step 3) Careful (boot [⟨[7], 0, 0⟩, ⟨[9, 10], 0, 0⟩]) m ∧ m.input = [] ∧
      acceptFrame m = none ∧ HandedOver m ∧
    Reaches (step 3) Careful (boot [⟨[7], 0, 0⟩, ⟨[9, 10], 0, 0⟩]) s ∧
      s.handled = [[7], [9, 10]] ∧ HandedOver s := by
  have hFirst : ∃ m, runGuarded (step 3) Careful (boot [⟨[7], 0, 0⟩, ⟨[9, 10], 0, 0⟩])
      handFirst = some m ∧ m.input = [] ∧ acceptFrame m = none := ⟨_, rfl, rfl, rfl⟩
  have hBoth : ∃ s, runGuarded (step 3) Careful (boot [⟨[7], 0, 0⟩, ⟨[9, 10], 0, 0⟩])
      (handFirst ++ handleBoth) = some s ∧ s.handled = [[7], [9, 10]] := ⟨_, rfl, rfl⟩
  obtain ⟨m, hm, hInput, hWaits⟩ := hFirst
  obtain ⟨s, hs, hHandled⟩ := hBoth
  exact ⟨m, s, .of_run hm, hInput, hWaits, handed_over (.of_run hm), .of_run hs, hHandled,
    handed_over (.of_run hs)⟩

/-! ## A hand-over that fails -/

/-- `r` is valid, and no copy of it is on its way. -/
structure Stuck (s : State) : Prop where
  valid : s.r.valid = true
  none : s.copies = []

theorem Stuck.kept (h : Stuck s) (hKept : Kept s s') : Stuck s' :=
  ⟨hKept.valid.trans h.valid, hKept.copies.trans h.none⟩

/-- No copy is in the hands of `recv_task`, and none has been received. -/
theorem Stuck.parts (h : Stuck s) :
    received s.pserialPc = [] ∧ requests s.reqQueue = [] ∧ handed s.r s.recvPc = [] := by
  have hNone := h.none
  simp only [State.copies, List.append_eq_nil_iff] at hNone
  exact ⟨hNone.1.1, hNone.1.2, hNone.2⟩

/-- With the copy not made or not queued, there is none. -/
theorem Inv.failed {copy : List UInt8} (h : Inv s) (hHanded : handed s.r s.recvPc = [copy]) :
    Stuck { s with recvPc := .idle } := by
  have hValid := h.handedOver.valid
  rw [State.copies, hHanded] at hValid
  cases hFlag : s.r.valid with
  | false => simp [hFlag] at hValid
  | true =>
    rw [hFlag, if_pos rfl, List.append_eq_singleton_iff] at hValid
    obtain ⟨hNone, -⟩ | ⟨-, hNil⟩ := hValid
    · refine ⟨hFlag, ?_⟩
      simp only [State.copies, hNone, handed, List.append_nil]
    · cases hNil

theorem copyReq_failed (h : Inv s) (hLen : s.r.data.length ≠ 0)
    (hStep : copyReq s false = some s') : Stuck s' := by
  unfold copyReq at hStep
  split at hStep
  · rename_i hPc
    rw [if_pos ⟨hLen, rfl⟩] at hStep
    cases hStep
    exact h.failed (by rw [hPc]; rfl)
  · cases hStep

theorem sendReq_failed (h : Inv s) (hStep : sendReq qMax s false = some s') : Stuck s' := by
  unfold sendReq at hStep
  split at hStep
  · rename_i hPc
    rw [if_pos rfl] at hStep
    cases hStep
    exact h.failed (by rw [hPc]; rfl)
  · cases hStep

/-- Nothing clears `r.valid` any more, and no message is completed. -/
theorem stuck_step {a : Action} (h : Stuck s) (hStep : step qMax s a = some s') :
    Stuck s' ∧ s'.reassembled = s.reassembled := by
  obtain ⟨hReceived, hQueue, hHanded⟩ := h.parts
  cases a with
  | recvFrame => exact ⟨h.kept (recvFrame_kept hStep).1, (recvFrame_kept hStep).1.reassembled⟩
  | event msgId data => exact ⟨h.kept (event_kept hStep).1, (event_kept hStep).1.reassembled⟩
  | dequeue => exact ⟨h.kept (dequeue_kept hStep).1, (dequeue_kept hStep).1.reassembled⟩
  | clearSeqNo => exact ⟨h.kept (clearSeqNo_kept hStep).1, (clearSeqNo_kept hStep).1.reassembled⟩
  | acceptFrame =>
    simp only [step, acceptFrame, h.valid, if_true] at hStep
    split at hStep <;> cases hStep
  | copyReq mallocOk =>
    simp only [step, copyReq] at hStep
    split at hStep
    · rename_i hPc
      rw [hPc] at hHanded
      cases hHanded
    · cases hStep
  | sendReq queueOk =>
    simp only [step, sendReq] at hStep
    split at hStep
    · rename_i hPc
      rw [hPc] at hHanded
      cases hHanded
    · cases hStep
  | readData =>
    simp only [step, readData] at hStep
    split at hStep
    · rename_i hPc
      rw [hPc] at hReceived
      cases hReceived
    · cases hStep
  | clearLen =>
    simp only [step, clearLen] at hStep
    split at hStep
    · cases hStep
      exact ⟨⟨h.valid, copies_cleared _ _ h.none⟩, rfl⟩
    · cases hStep
  | handleReq =>
    simp only [step, handleReq] at hStep
    split at hStep
    · split at hStep <;> cases hStep <;>
        exact ⟨⟨h.valid, by simp [State.copies, received, hQueue, hHanded]⟩, rfl⟩
    · cases hStep

/-- After a hand-over that failed `recv_task` waits for ever with the next frame, whatever
happens: no message is completed any more. -/
theorem stuck_forever {t : State} (h : Stuck s) (hRun : Reaches (step qMax) anyStep s t) :
    acceptFrame t = none ∧ t.reassembled = s.reassembled := by
  have hStuck : Stuck t ∧ t.reassembled = s.reassembled := by
    refine hRun.invariant (I := fun u => Stuck u ∧ u.reassembled = s.reassembled) ⟨h, rfl⟩ ?_
    intro u v a hInv _ hStep
    obtain ⟨hNext, hSame⟩ := stuck_step hInv.1 hStep
    exact ⟨hNext, hSame.trans hInv.2⟩
  refine ⟨?_, hStuck.2⟩
  unfold acceptFrame
  split
  · rw [if_pos hStuck.1.valid]
  · rfl

/-- A request of one byte in each frame. -/
def twoFrames : List Frame := [⟨[7], 0, 0⟩, ⟨[7], 0, 0⟩]

/-- There is no memory for the copy of the first request. The second one is never completed. -/
theorem not_handed_over : ∃ s,
    Reaches (step 3) anyStep (boot twoFrames) s ∧ s.input = [] ∧ ¬ HandedOver s ∧
      ∀ t, Reaches (step 3) anyStep s t → acceptFrame t = none ∧ t.reassembled = [[7]] := by
  have hRun : ∃ s, run (step 3) (boot twoFrames) [.recvFrame, .acceptFrame, .copyReq false,
      .recvFrame] = some s ∧ s.input = [] ∧ s.r.valid = true ∧ s.copies = [] ∧
      s.reassembled = [[7]] := ⟨_, rfl, rfl, rfl, rfl, rfl⟩
  obtain ⟨s, hRun, hInput, hValid, hCopies, hMessage⟩ := hRun
  refine ⟨s, .of_plain_run hRun, hInput, fun h => ?_, fun t hFuture => ?_⟩
  · have hOne := h.valid
    rw [hCopies, hValid] at hOne
    cases hOne
  · obtain ⟨hWait, hNoMore⟩ := stuck_forever ⟨hValid, hCopies⟩ hFuture
    exact ⟨hWait, hNoMore.trans hMessage⟩

end EspHosted.Serial.HandOver
