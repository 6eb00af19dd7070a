import EspHosted.Lib.Wire
import EspHosted.Serial.SlaveToHost
import Mathlib.Algebra.Group.Int.Defs

/-!
# Custom data from the co-processor

`esp_hosted_send_custom_data` takes at most 8166 bytes, puts the message id before them and hands
them to `pserial_task`, which makes an event of them, serializes and wraps it and sends it in
fragments. The host puts the fragments together without a limit; but `rpc_rx_thread` reads every
message into a buffer of 1600 bytes, and what is longer is thrown away.

The library that serializes the messages is a parameter.

* `length_wire`: how long the serialized event is;
* `pserialTask_iff`: when all of the event leaves;
* `sendCustomData_iff`: what is sent arrives if and only if its event has at most 1600 bytes, and
  a call whose event is not sent returns an error only if nothing behind the call fails.
-/

namespace EspHosted.Serial.CustomData

open Fragments HostRx Machine SlaveToHost Wire

/-! ## The call -/

/-- `data_to_send` and `data_len_to_send`: `NULL`, or a pointer to as many bytes. -/
inductive Buffer
  | null (len : Nat)
  | bytes (data : List UInt8)
  deriving DecidableEq

def Buffer.data : Buffer → List UInt8
  | .null _ => []
  | .bytes data => data

def espOk : Nat := 0
def espErrNoMem : Nat := 0x101
def espErrInvalidArg : Nat := 0x102
def espErrInvalidSize : Nat := 0x104

def maxCustomDataLen : Nat := 8166

/-- What can fail in a call and behind it: the buffer of the call, its copy and the queue of
`pserial_task`, the memory of the event and of its serialized form, the memory of its bytes, the
memory of the TLV records, and each fragment, by its position. -/
structure SendEnv where
  mallocOk : Bool
  readyOk : Bool
  handlerOk : Bool
  copyOk : Bool
  callocOk : Bool
  send : Nat → Bool

def SendEnv.ideal : SendEnv := ⟨true, true, true, true, true, fun _ => true⟩

/-- The bytes of a `uint32_t`, lowest first. -/
def idBytes (id : BitVec 32) : List UInt8 :=
  (List.range 4).map fun k => (id.toNat / 256 ^ k).toUInt8

/-- The `memcpy` from the first four bytes. -/
def idOfBytes (bytes : List UInt8) : BitVec 32 :=
  .ofNat 32 ((bytes.take 4).foldr (fun byte rest => byte.toNat + 256 * rest) 0)

/-- `esp_hosted_send_custom_data` behind the check of its arguments: the result, and what is put
into the queue of `pserial_task`. The status of `send_event_data_to_host` is not looked at. -/
def sendCustomData (env : SendEnv) (id : BitVec 32) (data : List UInt8) :
    Nat × Option (List UInt8) :=
  if maxCustomDataLen < data.length then (espErrInvalidSize, none)
  else if !env.mallocOk then (espErrNoMem, none)
  else (espOk, if env.readyOk then some (idBytes id ++ data) else none)

/-- A length without a pointer, or a pointer without a length, is an error. -/
def espHostedSendCustomData (env : SendEnv) (id : BitVec 32) (buf : Buffer) :
    Nat × Option (List UInt8) :=
  match buf with
  | .null len => if len ≠ 0 then (espErrInvalidArg, none) else sendCustomData env id []
  | .bytes data =>
    if data.length = 0 then (espErrInvalidArg, none) else sendCustomData env id data

/-! ## The event -/

/-- `RpcEventCustomRpc`. -/
structure EventCustomRpc where
  resp : Int
  customEventId : BitVec 32
  data : List UInt8
  deriving DecidableEq

def failure : Int := -1

/-- `rpc_evt_custom_rpc`. Without memory for the bytes the event is sent all the same. -/
def rpcEvtCustomRpc (copyOk : Bool) (data : List UInt8) : EventCustomRpc :=
  let userData := data.drop 4
  if userData.length = 0 then ⟨0, idOfBytes data, []⟩
  else if !copyOk then ⟨failure, idOfBytes data, []⟩
  else ⟨0, idOfBytes data, userData⟩

def rpcTypeEvent : Nat := 3
def rpcIdEventCustomRpc : Nat := 788

/-- The serialized `Rpc` with the event in it; `uid` is 0. -/
def wire (m : EventCustomRpc) : List UInt8 :=
  uintField 1 rpcTypeEvent ++ uintField 2 rpcIdEventCustomRpc ++ uintField 3 0 ++
    messageField rpcIdEventCustomRpc (uintField 1 (m.resp % 2 ^ 64).toNat ++
      uintField 2 m.customEventId.toNat ++ bytesField 3 m.data)

/-- `rpc__pack` and `rpc__unpack` on messages that carry this event. -/
abbrev Protobuf : Type := Codec EventCustomRpc

/-- The event part of `pserial_task`: `rpc_evt_handler`, `compose_tlv` and
`serial_write_data`. -/
def pserialTask (pb : Protobuf) (env : SendEnv) (seqNum : Nat) (data : List UInt8) :
    Option Written :=
  if !env.handlerOk then some ⟨[], false, seqNum⟩
  else xmit env.callocOk env.send seqNum (.event (pb.pack (rpcEvtCustomRpc env.copyOk data)))

/-- What `rpc_rx_thread` makes of a receive: the id and the bytes that a callback is called
with. -/
def rpcParseEvt (pb : Protobuf) (registered : BitVec 32 → Bool)
    (received : Except RecvError (List UInt8)) : Option (BitVec 32 × List UInt8) :=
  match received with
  | .error _ => none
  | .ok bytes => (pb.unpack bytes).bind fun m =>
    if registered m.customEventId then some (m.customEventId, m.data) else none

/-! ## Sizes -/

/-- The size of the event without the message around it. -/
def payloadSize (id : BitVec 32) (len : Nat) : Nat :=
  (if id.toNat = 0 then 0 else 1 + varintLen id.toNat) +
    (if len = 0 then 0 else 1 + (varintLen len + len))

/-- `rpc__get_packed_size`. -/
def packedSize (id : BitVec 32) (len : Nat) : Nat :=
  7 + (varintLen (payloadSize id len) + payloadSize id len)

theorem varintLen_le (n : Nat) : varintLen n ≤ 5 := by
  unfold varintLen
  split_ifs <;> omega

theorem payloadSize_le (id : BitVec 32) {len : Nat} (h : len ≤ maxCustomDataLen) :
    payloadSize id len ≤ 8178 := by
  have hId := varintLen_le id.toNat
  have hLen := varintLen_le len
  unfold maxCustomDataLen at h
  unfold payloadSize
  split_ifs <;> omega

theorem length_wire {id : BitVec 32} {data : List UInt8} (h : data.length ≤ maxCustomDataLen) :
    (wire ⟨0, id, data⟩).length = packedSize id data.length := by
  have hData : data.length < 2 ^ 35 := Nat.lt_of_le_of_lt h (by decide)
  have hId : id.toNat < 2 ^ 35 := Nat.lt_of_lt_of_le id.isLt (by decide)
  have hSub : (uintField 1 ((0 : Int) % 2 ^ 64).toNat ++ uintField 2 id.toNat ++
      bytesField 3 data).length = payloadSize id data.length := by
    rw [List.length_append, List.length_append, length_uintField (by decide) hId,
      length_bytesField (by decide) hData]
    exact congrArg (· + _) (Nat.zero_add _)
  have hSmall : payloadSize id data.length < 2 ^ 35 :=
    Nat.lt_of_le_of_lt (payloadSize_le id h) (by decide)
  unfold wire
  rw [List.length_append, length_messageField (by decide) (hSub ▸ hSmall), hSub]
  have hHead : (uintField 1 rpcTypeEvent ++ uintField 2 rpcIdEventCustomRpc ++
      uintField 3 0).length = 5 := by decide
  have hTag : varintLen (rpcIdEventCustomRpc * 8 + 2) = 2 := by decide
  rw [hHead, hTag]
  unfold packedSize
  omega

theorem packedSize_le (id : BitVec 32) {len : Nat} (h : len ≤ maxCustomDataLen) :
    packedSize id len ≤ 8190 := by
  have hSub := payloadSize_le id h
  have hVar := varintLen_le (payloadSize id len)
  unfold packedSize
  omega

/-- Every event that is accepted can be wrapped. -/
theorem wrappable_wire {id : BitVec 32} {data : List UInt8} (h : data.length ≤ maxCustomDataLen) :
    Wrappable (wire ⟨0, id, data⟩) := by
  have hSize := packedSize_le id h
  rw [Wrappable, length_wire h]
  have hPos : 7 ≤ packedSize id data.length := Nat.le_add_right _ _
  omega

/-! ## What leaves the co-processor -/

variable {pb : Protobuf} {env : SendEnv} {id : BitVec 32} {buf : Buffer}

/-- Both arguments are there, or neither. -/
def Buffer.Valid : Buffer → Prop
  | .null len => len = 0
  | .bytes data => data.length ≠ 0

/-- The calls that return `ESP_OK`. -/
def Accepted (env : SendEnv) (buf : Buffer) : Prop :=
  buf.Valid ∧ buf.data.length ≤ maxCustomDataLen ∧ env.mallocOk = true

/-- All of the event leaves. -/
def Transmitted (pb : Protobuf) (env : SendEnv) (seqNum : Nat) (id : BitVec 32) (buf : Buffer) :
    Prop :=
  ∃ data w, (espHostedSendCustomData env id buf).2 = some data ∧
    rpcEvtCustomRpc env.copyOk data = ⟨0, id, buf.data⟩ ∧
    pserialTask pb env seqNum data = some w ∧ w.ok = true

/-- Nothing fails behind the call. -/
structure NothingFails (env : SendEnv) (id : BitVec 32) (buf : Buffer) : Prop where
  ready : env.readyOk = true
  handler : env.handlerOk = true
  copy : buf.data.length = 0 ∨ env.copyOk = true
  tlv : env.callocOk = true
  fragments : SendsAll env.send 0 (packedSize id buf.data.length + 12)

theorem length_idBytes (id : BitVec 32) : (idBytes id).length = 4 := rfl

theorem idOfBytes_idBytes (id : BitVec 32) (data : List UInt8) :
    idOfBytes (idBytes id ++ data) = id := by
  have hId := id.isLt
  rw [idOfBytes, List.take_left' (length_idBytes id)]
  have hSum : (idBytes id).foldr (fun byte rest => byte.toNat + 256 * rest) 0 = id.toNat := by
    simp only [idBytes, List.range, List.range.loop, List.map_cons, List.map_nil, List.foldr_cons,
      List.foldr_nil, Nat.toUInt8_eq, UInt8.toNat_ofNat']
    omega
  rw [hSum, BitVec.ofNat_toNat, BitVec.setWidth_eq]

theorem rpcEvtCustomRpc_eq (copyOk : Bool) (id : BitVec 32) (data : List UInt8) :
    rpcEvtCustomRpc copyOk (idBytes id ++ data) =
      if data.length = 0 ∨ copyOk = true then ⟨0, id, data⟩ else ⟨failure, id, []⟩ := by
  unfold rpcEvtCustomRpc
  rw [List.drop_left' (length_idBytes id), idOfBytes_idBytes]
  by_cases hNil : data.length = 0
  · rw [if_pos (Or.inl hNil), List.length_eq_zero_iff.mp hNil]
    rfl
  · cases copyOk with
    | true => simp [hNil]
    | false => simp [hNil]

theorem espHostedSendCustomData_eq (env : SendEnv) (id : BitVec 32) (buf : Buffer) :
    (buf.Valid ∧ espHostedSendCustomData env id buf = sendCustomData env id buf.data) ∨
      (¬ buf.Valid ∧ espHostedSendCustomData env id buf = (espErrInvalidArg, none)) := by
  cases buf with
  | null len =>
    by_cases hLen : len = 0
    · exact Or.inl ⟨hLen, if_neg (not_not.mpr hLen)⟩
    · exact Or.inr ⟨hLen, if_pos hLen⟩
  | bytes data =>
    by_cases hLen : data.length = 0
    · exact Or.inr ⟨not_not.mpr hLen, if_pos hLen⟩
    · exact Or.inl ⟨hLen, if_neg hLen⟩

theorem accepted_iff (env : SendEnv) (id : BitVec 32) (buf : Buffer) :
    (espHostedSendCustomData env id buf).1 = espOk ↔ Accepted env buf := by
  unfold Accepted
  rcases espHostedSendCustomData_eq env id buf with ⟨hValid, hEq⟩ | ⟨hValid, hEq⟩
  · rw [hEq, sendCustomData]
    by_cases hLong : maxCustomDataLen < buf.data.length
    · rw [if_pos hLong]
      exact ⟨fun h => (show espErrInvalidSize ≠ espOk by decide) h |>.elim,
        fun h => absurd h.2.1 (by omega)⟩
    · rw [if_neg hLong]
      cases hMalloc : env.mallocOk with
      | false =>
        exact ⟨fun h => (show espErrNoMem ≠ espOk by decide) h |>.elim, fun h => nomatch h.2.2⟩
      | true => exact ⟨fun _ => ⟨hValid, Nat.le_of_not_lt hLong, rfl⟩, fun _ => rfl⟩
  · rw [hEq]
    exact ⟨fun h => (show espErrInvalidArg ≠ espOk by decide) h |>.elim,
      fun h => absurd h.1 hValid⟩

theorem queued_of_accepted (id : BitVec 32) (h : Accepted env buf) :
    (espHostedSendCustomData env id buf).2 =
      if env.readyOk then some (idBytes id ++ buf.data) else none := by
  obtain ⟨hValid, hLen, hMalloc⟩ := h
  rcases espHostedSendCustomData_eq env id buf with ⟨-, hEq⟩ | ⟨hNot, -⟩
  · rw [hEq, sendCustomData, if_neg (Nat.not_lt.mpr hLen), hMalloc]
    rfl
  · exact absurd hValid hNot

/-- `pserial_task` sends all of its event if it gets memory and no fragment fails. -/
theorem pserialTask_iff (pb : Protobuf) (env : SendEnv) (seqNum : Nat) (data : List UInt8) :
    (∃ w, pserialTask pb env seqNum data = some w ∧ w.ok = true) ↔
      env.handlerOk = true ∧ env.callocOk = true ∧
        SendsAll env.send 0 ((pb.pack (rpcEvtCustomRpc env.copyOk data)).length + 12) := by
  unfold pserialTask
  cases env.handlerOk with
  | false =>
    refine ⟨?_, fun h => nomatch h.1⟩
    rintro ⟨w, hw, hOk⟩
    cases hw
    cases hOk
  | true =>
    cases env.callocOk with
    | false =>
      refine ⟨?_, fun h => nomatch h.2.1⟩
      rintro ⟨w, hw, hOk⟩
      cases hw
      cases hOk
    | true =>
      rw [Bool.not_true, if_neg Bool.false_ne_true, xmit_eq]
      simp only [Option.some.injEq, exists_eq_left', serialWriteData_ok_iff, true_and,
        Outgoing.wrapped, length_tlv, Outgoing.length_epname, Outgoing.data]
      rw [show 6 + (pb.pack (rpcEvtCustomRpc env.copyOk data)).length + 6 =
        (pb.pack (rpcEvtCustomRpc env.copyOk data)).length + 12 by omega]

/-- Of an accepted call all of the event leaves if and only if nothing fails behind it. -/
theorem transmitted_iff (hPb : pb.Lawful wire ⟨0, id, buf.data⟩) (seqNum : Nat)
    (h : Accepted env buf) : Transmitted pb env seqNum id buf ↔ NothingFails env id buf := by
  have hQueued := queued_of_accepted id h
  unfold Transmitted
  rw [hQueued]
  cases hReady : env.readyOk with
  | false =>
    refine ⟨?_, fun hAll => nomatch hReady.symm.trans hAll.ready⟩
    rintro ⟨data, w, hData, -⟩
    cases hData
  | true =>
    have hSize : (pb.pack ⟨0, id, buf.data⟩).length = packedSize id buf.data.length := by
      rw [hPb.1, length_wire h.2.1]
    simp only [if_true]
    constructor
    · rintro ⟨data, w, hData, hEvent, hTask⟩
      cases hData
      have hCopy : buf.data.length = 0 ∨ env.copyOk = true := by
        by_contra hNot
        rw [rpcEvtCustomRpc_eq, if_neg hNot] at hEvent
        cases hEvent
      obtain ⟨hHandler, hTlv, hAll⟩ := (pserialTask_iff _ _ _ _).mp ⟨w, hTask⟩
      rw [hEvent, hSize] at hAll
      exact ⟨hReady, hHandler, hCopy, hTlv, hAll⟩
    · intro hAll
      have hEvent := rpcEvtCustomRpc_eq env.copyOk id buf.data
      rw [if_pos hAll.copy] at hEvent
      have hFragments := hAll.fragments
      rw [← hSize, ← hEvent] at hFragments
      obtain ⟨w, hTask⟩ :=
        (pserialTask_iff pb env seqNum _).mpr ⟨hAll.handler, hAll.tlv, hFragments⟩
      exact ⟨_, w, rfl, hEvent, hTask⟩

/-! ## What arrives at the host -/

/-- The event of `id` and `data`, ready to be wrapped. -/
def eventOf (pb : Protobuf) (id : BitVec 32) (data : List UInt8) : Outgoing :=
  .event (pb.pack ⟨0, id, data⟩)

/-- A run of the path from the co-processor to the host in which the event is the message with
number `k`, whatever the other messages are. -/
structure Traffic (pb : Protobuf) (id : BitVec 32) (data : List UInt8) where
  seqNum : Nat
  ms : List Outgoing
  frames : List Frame
  semMax : Nat
  s : HostRx
  k : Nat
  sent : Sent seqNum ms frames
  counts : 0 < semMax
  run : Reaches (step semMax) (Provided semMax) (init frames) s
  event : ms[k]? = some (eventOf pb id data)
  others : ∀ m ∈ ms, m ≠ eventOf pb id data → Wrappable m.data

/-- What the registered callback is called with for the receive with number `k`. -/
def Traffic.callback {data : List UInt8} (t : Traffic pb id data)
    (registered : BitVec 32 → Bool) : Option (BitVec 32 × List UInt8) :=
  t.s.received[t.k]?.bind (rpcParseEvt pb registered)

theorem Traffic.wrappable {data : List UInt8} (t : Traffic pb id data)
    (hPb : pb.Lawful wire ⟨0, id, data⟩) (hLen : data.length ≤ maxCustomDataLen) :
    ∀ m ∈ t.ms, Wrappable m.data := by
  intro m hm
  by_cases hEvent : m = eventOf pb id data
  · subst hEvent
    show Wrappable (pb.pack _)
    rw [hPb.1]
    exact wrappable_wire hLen
  · exact t.others m hm hEvent

theorem Traffic.kept {data : List UInt8} (t : Traffic pb id data)
    (hPb : pb.Lawful wire ⟨0, id, data⟩) (hLen : data.length ≤ maxCustomDataLen) : Kept t.ms t.s :=
  t.sent.kept_of_reaches (t.wrappable hPb hLen) t.run

/-- When everything is received, the callback was called with the event, or the event was longer
than the buffer. -/
theorem Traffic.callback_eq {data : List UInt8} (t : Traffic pb id data)
    (hPb : pb.Lawful wire ⟨0, id, data⟩) (hLen : data.length ≤ maxCustomDataLen)
    {registered : BitVec 32 → Bool} (hReg : registered id = true) (hDone : Done t.s) :
    t.callback registered =
      if packedSize id data.length ≤ espTransportMaxBufSize then some (id, data) else none := by
  have hReceived := (t.kept hPb hLen).received_of_done hDone
  have hSize : (eventOf pb id data).data.length = packedSize id data.length := by
    rw [eventOf, Outgoing.data, hPb.1, length_wire hLen]
  unfold Traffic.callback
  rw [hReceived, List.getElem?_map, t.event, Option.map_some, Option.bind_some, outcome, hSize]
  by_cases hFits : packedSize id data.length ≤ espTransportMaxBufSize
  · rw [if_pos hFits, if_pos hFits, eventOf, Outgoing.data, hPb.1, rpcParseEvt, hPb.2,
      Option.bind_some, if_pos hReg]
  · rw [if_neg hFits, if_neg hFits]
    rfl

/-- For every accepted call, whatever else is on its way: the event reaches the registered
callback, with its id and its bytes, if and only if its serialized form fits into the buffer of
`rpc_rx_thread`, and until everything is received some step is possible. A call whose event does
not leave as a whole returns an error if and only if nothing fails behind the calls that are
accepted. -/
theorem sendCustomData_iff (pb : Protobuf) (env : SendEnv) (id : BitVec 32) (buf : Buffer)
    (hPb : pb.Lawful wire ⟨0, id, buf.data⟩) :
    ((espHostedSendCustomData env id buf).1 = espOk →
      ∀ (t : Traffic pb id buf.data) (registered : BitVec 32 → Bool), registered id = true →
        (¬ Done t.s → ∃ a s', Provided t.semMax t.s a ∧ step t.semMax t.s a = some s') ∧
          (Done t.s → (t.callback registered = some (id, buf.data) ↔
            packedSize id buf.data.length ≤ espTransportMaxBufSize))) ∧
      ∀ seqNum, (¬ Transmitted pb env seqNum id buf →
        (espHostedSendCustomData env id buf).1 ≠ espOk) ↔
          (Accepted env buf → NothingFails env id buf) := by
  have hIff := accepted_iff env id buf
  refine ⟨fun hRet t registered hReg => ?_, fun seqNum => ?_⟩
  · have hLen := (hIff.mp hRet).2.1
    refine ⟨(t.kept hPb hLen).progress (t.wrappable hPb hLen) t.counts, fun hDone => ?_⟩
    rw [t.callback_eq hPb hLen hReg hDone]
    split
    · rename_i hFits
      exact ⟨fun _ => hFits, fun _ => rfl⟩
    · rename_i hFits
      exact ⟨fun h => (nomatch h), fun h => absurd h hFits⟩
  · rw [not_imp_not, hIff]
    constructor
    · intro h hAcc
      exact (transmitted_iff hPb seqNum hAcc).mp (h hAcc)
    · intro h hAcc
      exact (transmitted_iff hPb seqNum hAcc).mpr (h hAcc)

/-! ## One event alone -/

/-- The run in which nothing but the event is sent. -/
def alone (id : BitVec 32) (data : List UInt8) (schedule : List Action) (s : HostRx)
    (h : runGuarded (step 10) (Provided 10)
      (init (onlyFrames (eventOf (Codec.only wire ⟨0, id, data⟩) id data))) schedule = some s) :
    Traffic (Codec.only wire ⟨0, id, data⟩) id data where
  seqNum := 0
  ms := [eventOf (Codec.only wire ⟨0, id, data⟩) id data]
  frames := _
  semMax := 10
  s := s
  k := 0
  sent := sent_onlyFrames _
  counts := by decide
  run := .of_run h
  event := rfl
  others := by simp

theorem sendCustomData_iff_short :
    (∃ t : Traffic (Codec.only wire ⟨0, 5, [1, 2, 3]⟩) 5 [1, 2, 3],
      t.callback (· == 5) = some (5, [1, 2, 3])) ∧
      Transmitted (Codec.only wire ⟨0, 5, [1, 2, 3]⟩) .ideal 0 5 (.bytes [1, 2, 3]) := by
  have hBoth := sendCustomData_iff (Codec.only wire ⟨0, 5, [1, 2, 3]⟩) .ideal 5 (.bytes [1, 2, 3])
    (Codec.only_lawful wire _)
  refine ⟨?_, ?_⟩
  · have hRun : ∃ s, runGuarded (step 10) (Provided 10)
        (init (onlyFrames (eventOf (Codec.only wire ⟨0, 5, [1, 2, 3]⟩) 5 [1, 2, 3])))
          shortSchedule = some s ∧ Done s := ⟨_, rfl, rfl, rfl, rfl⟩
    obtain ⟨s, hs, hDone⟩ := hRun
    have hIff := (hBoth.1 rfl (alone 5 [1, 2, 3] shortSchedule s hs) (· == 5) rfl).2 hDone
    exact ⟨_, hIff.mpr (by decide)⟩
  · by_contra hNot
    refine (hBoth.2 0).mpr (fun _ => ?_) hNot rfl
    exact ⟨rfl, rfl, Or.inr rfl, rfl, fun _ _ => rfl⟩

/-- An event of 1600 bytes is accepted and sent, and thrown away. -/
theorem custom_event_lost :
    ¬ ∀ pb env id buf, Codec.Lawful pb wire ⟨0, id, buf.data⟩ → NothingFails env id buf →
      (espHostedSendCustomData env id buf).1 = espOk →
        ∀ (t : Traffic pb id buf.data) registered, registered id = true → Done t.s →
          t.callback registered = some (id, buf.data) := by
  intro h
  let data : List UInt8 := List.replicate 1600 0
  have hLen : data.length = 1600 := List.length_replicate
  have hRun : (runGuarded (step 10) (Provided 10)
      (init (onlyFrames (eventOf (Codec.only wire ⟨0, 1, data⟩) 1 data))) longSchedule).map
        (fun s => (s.input.length, s.queue.length, s.indicating)) = some (0, 0, false) := by
    decide +kernel
  obtain ⟨s, hs, hFinal⟩ := Option.map_eq_some_iff.mp hRun
  simp only [Prod.mk.injEq, List.length_eq_zero_iff] at hFinal
  have hAcc : Accepted .ideal (.bytes data) := by
    refine ⟨?_, ?_, rfl⟩
    · show data.length ≠ 0
      omega
    · show data.length ≤ 8166
      omega
  have hNone : NothingFails .ideal 1 (.bytes data) := ⟨rfl, rfl, Or.inr rfl, rfl, fun _ _ => rfl⟩
  have hAll := h (Codec.only wire ⟨0, 1, data⟩) .ideal 1 (.bytes data)
    (Codec.only_lawful wire _) hNone ((accepted_iff _ _ _).mpr hAcc)
    (alone 1 data longSchedule s hs) (fun _ => true) rfl hFinal
  have hLost : (alone 1 data longSchedule s hs).callback (fun _ => true) = _ :=
    Traffic.callback_eq _ (Codec.only_lawful wire _) hAcc.2.1 rfl hFinal
  rw [Buffer.data, hLen, if_neg (by decide)] at hLost
  cases hLost.symm.trans hAll

end EspHosted.Serial.CustomData
