import EspHosted.Serial.HostRx

/-!
# The accumulator of received fragments

`serial_ll_rx_handler` collects fragments in the static `r`, a length and a pointer. A failing call
ends in `serial_buff_cleanup`, which sets the length to zero and frees the memory, but leaves the
pointer. So `r` is in order after a call that fails while nothing is collected, and not after one
that throws a part of a message away.

* `serialLlRxHandler_eq`: on an `r` in order, the handler is that of the receive path.
* `ordered_of_reaches`: `r` stays in order as long as nothing is thrown away in this way and no
  message is longer than its 16-bit length can say.
-/

namespace EspHosted.Serial.Accumulator

open Machine

/-! ## The handler -/

/-- `r`: an `int` and a pointer. -/
structure RxData where
  len : Nat
  data : HostRxData
  deriving DecidableEq

/-- One call: the frame, whether `if_num` names an active interface, and whether the allocation of
`r.data`, the one of the copy and `h_queue_send` succeed. `callback` says that
`serial_rx_callback` is set. -/
structure Call where
  frame : Frame
  active : Bool
  reallocOk : Bool
  mallocOk : Bool
  queueOk : Bool
  callback : Bool

/-- A call in which nothing fails. -/
def Call.ideal (f : Frame) : Call := ⟨f, true, true, true, true, true⟩

/-- What becomes of the message: there is none yet or it is lost, it was not taken by the queue, it
is in the queue, or it is in the queue but freed. -/
inductive Outcome
  | nothing
  | refused
  | queued (b : RxBuf)
  | queuedFreed (b : RxBuf)
  deriving DecidableEq

def Outcome.delivered : Outcome → List RxBuf
  | .nothing | .refused => []
  | .queued b | .queuedFreed b => [b]

/-- `h_realloc`, the new bytes being zero. -/
def hRealloc (block : List UInt8) (size : Nat) : List UInt8 :=
  block.take size ++ List.replicate (size - block.length) 0

/-- `h_memcpy(block + offset, bytes, n)`; `none` is a write behind the end. -/
def hMemcpy (block : List UInt8) (offset : Nat) (bytes : List UInt8) : Option (List UInt8) :=
  if offset + bytes.length ≤ block.length then
    some (block.take offset ++ bytes ++ block.drop (offset + bytes.length))
  else none

/-- `SERIAL_ALLOC_REALLOC_RDATA`: the block that `r.data` then points to. A block that is freed
cannot be grown. -/
def serialAllocReallocRdata (ok : Bool) (payloadLen : Nat) (r : RxData) :
    Option (Option (List UInt8)) :=
  match r.data with
  | .null => some (if ok then some (List.replicate payloadLen 0) else none)
  | .live block => some (if ok then some (hRealloc block (r.len + payloadLen)) else none)
  | .dangling => none

/-- `serial_buff_cleanup`. -/
def cleanup (data : HostRxData) (outcome : Outcome) : Option (RxData × Outcome) :=
  (serialBuffCleanup data).map fun data => (⟨0, data⟩, outcome)

/-- The last fragment: `r` is copied into a buffer of its own, which goes into the queue. -/
def complete (c : Call) (len : Nat) (block : List UInt8) : Option (RxData × Outcome) :=
  if !c.mallocOk then cleanup (.live block) .nothing
  else if block.length < len then none
  else
    let serialBuf : RxBuf := ⟨block.take len, len % 2 ^ 16⟩
    if !c.queueOk then cleanup .null .refused
    else if !c.callback then cleanup .null (.queuedFreed serialBuf)
    else some (⟨0, .null⟩, .queued serialBuf)

/-- `serial_ll_rx_handler`. `none` is a use of freed memory, an access outside a block, or an
overflow of the `int` `r.len`. -/
def serialLlRxHandler (c : Call) (r : RxData) : Option (RxData × Outcome) :=
  let payload := c.frame.payload
  if payload.length = 0 ∨ c.active = false then cleanup r.data .nothing
  else if 2 ^ 31 ≤ r.len + payload.length then none
  else
    (serialAllocReallocRdata c.reallocOk payload.length r).bind fun data =>
      match data with
      | none => cleanup .null .nothing
      | some block =>
        (hMemcpy block r.len payload).bind fun block =>
          if c.frame.more then some (⟨r.len + payload.length, .live block⟩, .nothing)
          else complete c (r.len + payload.length) block

/-! ## Sequences of calls -/

/-- `r`, the fragments received since `r.len` was last set to zero, and the messages delivered. -/
structure Run where
  r : RxData
  since : List UInt8
  delivered : List RxBuf
  fault : Bool
  deriving DecidableEq

def Run.init : Run := ⟨⟨0, .null⟩, [], [], false⟩

def step (s : Run) (c : Call) : Option Run :=
  if s.fault then none
  else
    match serialLlRxHandler c s.r with
    | none => some { s with fault := true }
    | some (r, outcome) =>
      some { s with
        r := r
        since := if r.len = 0 then [] else s.since ++ c.frame.payload
        delivered := s.delivered ++ outcome.delivered }

/-- `r` is empty, or a live block that holds what was received since the last reset. -/
def HoldsSince (r : RxData) (since : List UInt8) : Prop :=
  (r.len = 0 ∧ r.data = .null ∧ since = []) ∨
    ∃ block, r.data = .live block ∧ r.len ≤ block.length ∧ block.take r.len = since

/-- What holds after each call. -/
structure Ordered (s : Run) : Prop where
  noFault : s.fault = false
  holds : HoldsSince s.r s.since
  fits : ∀ b ∈ s.delivered, b.payloadLen = b.payload.length

/-- The calls that leave `r` in order. A call that is dropped must find nothing collected, the copy
of a complete message must be allocated, and its length must fit into 16 bits. -/
def KeepsOrder (s : Run) (c : Call) : Prop :=
  if c.frame.payload.length = 0 ∨ c.active = false then s.r.data = .null
  else s.r.len + c.frame.payload.length < 2 ^ 31 ∧
    (c.reallocOk = false ∨ c.frame.more = true ∨
      (c.mallocOk = true ∧
        (c.queueOk = false ∨ s.r.len + c.frame.payload.length < 2 ^ 16)))

instance (s : Run) (c : Call) : Decidable (KeepsOrder s c) := by
  unfold KeepsOrder
  infer_instance

/-! ## One call on an `r` in order -/

theorem holdsSince_empty : HoldsSince ⟨0, .null⟩ [] := Or.inl ⟨rfl, rfl, rfl⟩

variable {r : RxData} {since payload : List UInt8}

theorem HoldsSince.len_eq (h : HoldsSince r since) : r.len = since.length := by
  rcases h with ⟨hLen, -, rfl⟩ | ⟨block, -, hFits, rfl⟩
  · exact hLen
  · exact (List.length_take_of_le hFits).symm

theorem length_hRealloc (block : List UInt8) (size : Nat) :
    (hRealloc block size).length = size := by
  rw [hRealloc, List.length_append, List.length_take, List.length_replicate]
  omega

theorem take_hRealloc {block : List UInt8} {len size : Nat} (hLen : len ≤ block.length)
    (hSize : len ≤ size) : (hRealloc block size).take len = block.take len := by
  rw [hRealloc, List.take_append_of_le_length (by rw [List.length_take]; omega), List.take_take,
    Nat.min_eq_left hSize]

/-- Writing at the end of what is held. -/
theorem hMemcpy_end {block : List UInt8} {len : Nat} (hLen : block.length = len + payload.length) :
    hMemcpy block len payload = some (block.take len ++ payload) := by
  rw [hMemcpy, if_pos (by omega), ← hLen, List.drop_length, List.append_nil]

/-- When there is memory, the fragment is appended. -/
theorem HoldsSince.collect (h : HoldsSince r since) (payload : List UInt8) :
    ∃ block, serialAllocReallocRdata true payload.length r = some (some block) ∧
      hMemcpy block r.len payload = some (since ++ payload) := by
  unfold serialAllocReallocRdata
  rcases h with ⟨hLen, hData, rfl⟩ | ⟨block, hData, hFits, rfl⟩
  · refine ⟨List.replicate payload.length 0, by rw [hData]; rfl, ?_⟩
    rw [hLen, hMemcpy_end (by rw [List.length_replicate, Nat.zero_add]), List.take_zero]
  · refine ⟨hRealloc block (r.len + payload.length), by rw [hData]; rfl, ?_⟩
    rw [hMemcpy_end (length_hRealloc _ _), take_hRealloc hFits (Nat.le_add_right _ _)]

/-- There is memory, or `r` is emptied. -/
theorem HoldsSince.noMemory (h : HoldsSince r since) (n : Nat) :
    serialAllocReallocRdata false n r = some none := by
  unfold serialAllocReallocRdata
  rcases h with ⟨-, hData, -⟩ | ⟨block, hData, -, -⟩ <;> rw [hData] <;> rfl

/-- What the handler does with a fragment when `r` is in order. -/
theorem serialLlRxHandler_fragment {c : Call} (h : HoldsSince r since)
    (hNe : c.frame.payload.length ≠ 0) (hActive : c.active = true)
    (hInt : r.len + c.frame.payload.length < 2 ^ 31) :
    serialLlRxHandler c r =
      if !c.reallocOk then some (⟨0, .null⟩, .nothing)
      else if c.frame.more then
        some (⟨r.len + c.frame.payload.length, .live (since ++ c.frame.payload)⟩, .nothing)
      else complete c (r.len + c.frame.payload.length) (since ++ c.frame.payload) := by
  unfold serialLlRxHandler
  dsimp only
  rw [if_neg (by simp [hNe, hActive]), if_neg (by omega)]
  cases hRealloc : c.reallocOk with
  | false =>
    rw [h.noMemory]
    rfl
  | true =>
    obtain ⟨block, hBlock, hCopy⟩ := h.collect c.frame.payload
    rw [hBlock, Option.bind_some]
    dsimp only
    rw [hCopy, Option.bind_some]
    rfl

/-- The copy of a complete message. -/
theorem complete_ok {c : Call} {len : Nat} {message : List UInt8} (hMalloc : c.mallocOk = true)
    (hLen : len = message.length) :
    complete c len message = some (⟨0, .null⟩,
      if !c.queueOk then .refused
      else if !c.callback then .queuedFreed (.ofData message) else .queued (.ofData message)) := by
  subst hLen
  unfold complete
  rw [hMalloc, if_neg (by decide), if_neg (Nat.lt_irrefl _), List.take_length]
  dsimp only
  split
  · rfl
  split <;> rfl

/-- With a queue that takes every message, the handler is the one of the receive path. -/
theorem serialLlRxHandler_eq (acc : List UInt8) (c : Call) (hQueue : c.queueOk = true)
    (hCallback : c.callback = true) (hInt : acc.length + c.frame.payload.length < 2 ^ 31) :
    (serialLlRxHandler c ⟨acc.length, .holding acc⟩).map
        (fun result => (result.1.data, result.2.delivered.head?)) =
      Serial.serialLlRxHandler ⟨c.active, c.reallocOk, c.mallocOk⟩ (.holding acc) c.frame := by
  have hHolds : HoldsSince ⟨acc.length, .holding acc⟩ acc := by
    unfold HostRxData.holding
    by_cases hNil : acc = []
    · subst hNil
      exact holdsSince_empty
    · rw [if_neg hNil]
      exact Or.inr ⟨acc, rfl, Nat.le_refl _, List.take_length⟩
  by_cases hDrop : c.frame.payload.length = 0 ∨ c.active = false
  · unfold serialLlRxHandler Serial.serialLlRxHandler
    dsimp only
    rw [if_pos hDrop, if_pos hDrop, cleanup, Option.map_map]
    rfl
  · obtain ⟨hNe, hActive⟩ := not_or.mp hDrop
    have hActive : c.active = true := by simpa using hActive
    have hPayload : c.frame.payload ≠ [] := fun hNil => hNe (by rw [hNil]; rfl)
    rw [serialLlRxHandler_fragment hHolds hNe hActive hInt,
      serialLlRxHandler_active hActive acc hPayload]
    unfold collectFragment
    dsimp only
    cases c.reallocOk with
    | false => rfl
    | true =>
      simp only [Bool.not_true, Bool.false_eq_true, if_false]
      by_cases hMore : c.frame.more = true
      · rw [if_pos hMore, if_pos hMore]
        rfl
      rw [if_neg hMore, if_neg hMore]
      cases hMalloc : c.mallocOk with
      | false =>
        unfold complete
        rw [hMalloc]
        rfl
      | true =>
        rw [complete_ok hMalloc (List.length_append).symm, hQueue, hCallback]
        rfl

/-! ## Any number of calls -/

theorem ordered_init : Ordered .init := ⟨rfl, holdsSince_empty, fun _ hb => nomatch hb⟩

/-- A call that is dropped changes nothing when nothing is collected. -/
theorem step_dropped {s t : Run} {c : Call} (hs : Ordered s) (hNull : s.r.data = .null)
    (hDrop : c.frame.payload.length = 0 ∨ c.active = false) (hStep : step s c = some t) :
    Ordered t := by
  have hHandler : serialLlRxHandler c s.r = some (⟨0, .null⟩, .nothing) := by
    unfold serialLlRxHandler
    dsimp only
    rw [if_pos hDrop, cleanup, hNull]
    rfl
  rw [step, hs.noFault, hHandler] at hStep
  cases hStep
  exact ⟨rfl, holdsSince_empty, by simpa [Outcome.delivered] using hs.fits⟩

/-- A complete message leaves `r` empty, and its length is right unless the queue refuses it. -/
theorem step_complete {s t : Run} {c : Call} (hs : Ordered s)
    (hHandler : serialLlRxHandler c s.r =
      complete c (s.r.len + c.frame.payload.length) (s.since ++ c.frame.payload))
    (hMalloc : c.mallocOk = true)
    (hFits : c.queueOk = false ∨ s.r.len + c.frame.payload.length < 2 ^ 16)
    (hStep : step s c = some t) : Ordered t := by
  have hLen : s.r.len + c.frame.payload.length = (s.since ++ c.frame.payload).length := by
    rw [List.length_append, hs.holds.len_eq]
  rw [complete_ok hMalloc hLen] at hHandler
  rw [step, hs.noFault, hHandler] at hStep
  cases hStep
  refine ⟨rfl, holdsSince_empty, ?_⟩
  intro b hb
  rcases List.mem_append.mp hb with hOld | hNew
  · exact hs.fits b hOld
  · rcases hFits with hRefused | hShort
    · rw [hRefused] at hNew
      exact absurd hNew (by simp [Outcome.delivered])
    · have hMessage : (RxBuf.ofData (s.since ++ c.frame.payload)).payloadLen =
          (s.since ++ c.frame.payload).length := by
        unfold RxBuf.ofData
        dsimp only
        rw [← hLen, Nat.mod_eq_of_lt hShort]
      split at hNew
      · exact absurd hNew (by simp [Outcome.delivered])
      · split at hNew <;> rw [List.mem_singleton.mp hNew] <;> exact hMessage

theorem ordered_step {s t : Run} {c : Call} (hs : Ordered s) (hKeeps : KeepsOrder s c)
    (hStep : step s c = some t) : Ordered t := by
  unfold KeepsOrder at hKeeps
  split at hKeeps
  · rename_i hDrop
    exact step_dropped hs hKeeps hDrop hStep
  rename_i hTaken
  obtain ⟨hNe, hActive⟩ := not_or.mp hTaken
  obtain ⟨hInt, hCase⟩ := hKeeps
  have hHandler := serialLlRxHandler_fragment hs.holds hNe (by simpa using hActive) hInt
  cases hRealloc : c.reallocOk with
  | false =>
    rw [hRealloc, Bool.not_false, if_pos rfl] at hHandler
    rw [step, hs.noFault, hHandler] at hStep
    cases hStep
    exact ⟨rfl, holdsSince_empty, by simpa [Outcome.delivered] using hs.fits⟩
  | true =>
    rw [hRealloc, Bool.not_true, if_neg (by decide)] at hHandler
    by_cases hMore : c.frame.more = true
    · rw [if_pos hMore] at hHandler
      rw [step, hs.noFault, hHandler] at hStep
      cases hStep
      refine ⟨rfl, Or.inr ⟨s.since ++ c.frame.payload, rfl, ?_, ?_⟩,
        by simpa [Outcome.delivered] using hs.fits⟩
      · exact Nat.le_of_eq (by rw [List.length_append, hs.holds.len_eq])
      · dsimp only
        rw [if_neg (by omega), hs.holds.len_eq, ← List.length_append, List.take_length]
    · rw [if_neg hMore] at hHandler
      obtain ⟨hMalloc, hFits⟩ : c.mallocOk = true ∧
          (c.queueOk = false ∨ s.r.len + c.frame.payload.length < 2 ^ 16) := by
        rcases hCase with hNo | hYes | hBoth
        · rw [hRealloc] at hNo
          cases hNo
        · exact absurd hYes hMore
        · exact hBoth
      exact step_complete hs hHandler hMalloc hFits hStep

/-- As long as every call meets the condition, `r` is in order and every delivered message has the
length it is delivered with. -/
theorem ordered_of_reaches {s : Run} (hRun : Reaches step KeepsOrder .init s) : Ordered s :=
  hRun.invariant ordered_init fun _ _ _ hs hKeeps hStep => ordered_step hs hKeeps hStep

/-- A fragment, then the last one; then a fragment and a failing allocation of `r.data`. -/
theorem ordered_fragments : ∃ s, Reaches step KeepsOrder .init s ∧ Ordered s ∧
    s.delivered = [⟨[1, 2], 2⟩] := by
  have hRun : runGuarded step KeepsOrder .init
      [.ideal ⟨[1], 0, 1⟩, .ideal ⟨[2], 0, 0⟩, .ideal ⟨[3], 0, 1⟩,
        { Call.ideal ⟨[4], 0, 1⟩ with reallocOk := false }] =
      some ⟨⟨0, .null⟩, [], [⟨[1, 2], 2⟩], false⟩ := by decide
  exact ⟨_, .of_run hRun, ordered_of_reaches (.of_run hRun), rfl⟩

/-- A fragment, then a frame for an interface that is not active: `r.data` is freed, and still
points to the block. -/
theorem not_ordered : ¬∀ s, Reaches step anyStep .init s → Ordered s := by
  intro h
  have hRun : run step .init
      [.ideal ⟨[1], 0, 1⟩, { Call.ideal ⟨[2], 0, 0⟩ with active := false }] =
      some ⟨⟨0, .dangling⟩, [], [], false⟩ := by decide
  rcases (h _ (.of_plain_run hRun)).holds with ⟨-, hNull, -⟩ | ⟨block, hLive, -⟩
  · cases hNull
  · cases hLive

end EspHosted.Serial.Accumulator
