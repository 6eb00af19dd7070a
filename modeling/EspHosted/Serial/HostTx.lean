import EspHosted.Serial.Frame

/-!
# Sending an RPC message from the host

`h_serial_if_send` wraps the message (`serial_compose_tlv`) and gives the buffer to
`serial_ll_write`, which cuts it into fragments and hands each of them to the transport
with `h_transmit`.

`hSerialIfSend_accepted`: a message that is accepted has left as the fragments of its TLV
form.
-/

namespace EspHosted.Serial

open Bytes Fragments

/-- `serial_compose_tlv` into a buffer of the given content: the buffer and the number of
bytes written. `none` is a write behind the end of the buffer. -/
def serialComposeTlv (buf data : List UInt8) (dataLength : Nat) : Option Writer := do
  let epName := rpcEpNameRsp
  let w ← Writer.put ⟨buf, 0⟩ tlvTypeEpname
  let w ← w.put (lo epName.length)
  let w ← w.put (hi epName.length)
  let w ← w.puts epName
  let w ← w.put tlvTypeData
  let w ← w.put (lo dataLength)
  let w ← w.put (hi dataLength)
  w.copy (data.take dataLength)

/-- The loop of `serial_ll_write`: the frames given to the transport and whether all were
accepted. `transmit offset` is the result of `h_transmit` for the fragment at `offset`. -/
def serialLlWriteLoop (maxPayloadSize : Nat) (transmit : Nat → Bool) (wbuffer : List UInt8) :
    Nat → Nat → Nat → List Frame × Bool
  | 0, _, _ => ([], true)
  | fuel + 1, offset, remainingLen =>
    if 0 < remainingLen then
      let fragLen := if maxPayloadSize < remainingLen then maxPayloadSize else remainingLen
      let flags := if maxPayloadSize < remainingLen then moreFragment else 0
      if transmit offset then
        let frame : Frame := ⟨(wbuffer.drop offset).take fragLen, 0, flags⟩
        let (frames, ok) := serialLlWriteLoop maxPayloadSize transmit wbuffer fuel
          (offset + fragLen) (remainingLen - fragLen)
        (frame :: frames, ok)
      else ([], false)
    else ([], true)

/-- `serial_ll_write` on an active interface. -/
def serialLlWrite (t : Transport) (transmit : Nat → Bool) (wbuffer : List UInt8)
    (wlen : Nat) : List Frame × Bool :=
  if wlen = 0 then ([], false)
  else if maxFragmentablePayloadSize < wlen then ([], false)
  else serialLlWriteLoop t.maxPayloadSize transmit wbuffer wlen 0 wlen

/-- The environment of one call: `h_calloc` succeeds, and what `h_transmit` returns. -/
structure SendEnv where
  callocOk : Bool
  transmit : Nat → Bool

/-- `h_serial_if_send` on an open interface, the adapter's `h_control_serial_drv_write`
inlined: the frames that went out and whether the result is `H_OK`. `none` stands for a
write behind the end of the TLV buffer. -/
def hSerialIfSend (t : Transport) (env : SendEnv) (data : List UInt8) (len : Nat) :
    Option (List Frame × Bool) :=
  if len = 0 then some ([], false)
  else
    let bufLen := (3 + rpcEpNameRsp.length + 3 + len) % 2 ^ 16
    if !env.callocOk then some ([], false)
    else
      (serialComposeTlv (List.replicate bufLen 0) data len).map fun w =>
        if w.count = 0 then ([], false)
        else serialLlWrite t env.transmit w.mem w.count

/-! ## What an accepted message has become -/

theorem serialComposeTlv_eq {data : List UInt8} (h : data.length + 12 < 2 ^ 16) :
    serialComposeTlv (List.replicate (12 + data.length) 0) data data.length =
      some ⟨tlv rpcEpNameRsp data, 12 + data.length⟩ := by
  have hStart : (⟨List.replicate (12 + data.length) 0, 0⟩ : Writer) =
      Writer.filled [] (12 + data.length) := by simp [Writer.filled]
  have hEp : rpcEpNameRsp.length = 6 := rfl
  simp only [serialComposeTlv, hStart, Option.bind_eq_bind]
  rw [Writer.put_filled (by omega) (by simp), Option.bind_some,
    Writer.put_filled (by omega) (by simp), Option.bind_some,
    Writer.put_filled (by omega) (by simp), Option.bind_some,
    Writer.puts_filled (by omega) (by simp [hEp]), Option.bind_some,
    Writer.put_filled (by omega) (by simp [hEp]), Option.bind_some,
    Writer.put_filled (by omega) (by simp [hEp]), Option.bind_some,
    Writer.put_filled (by omega) (by simp [hEp]), Option.bind_some,
    Writer.copy_filled (by simp; omega) (by simp [hEp]; omega)]
  simp [Writer.filled, tlv, record, hEp]
  omega

/-- A fragment as `serial_ll_write` sends it: the host leaves the sequence number 0. -/
def hostFrame (piece : List UInt8 × Bool) : Frame := ⟨piece.1, 0, fragFlags piece.2⟩

theorem serialLlWriteLoop_done {size : Nat} {transmit : Nat → Bool} {wbuffer : List UInt8}
    (fuel offset : Nat) :
    serialLlWriteLoop size transmit wbuffer fuel offset 0 = ([], true) := by
  cases fuel <;> rfl

/-- When every fragment is accepted, the loop sends the fragments of the rest of the
buffer. -/
theorem serialLlWriteLoop_ok {size : Nat} (hSize : 0 < size) {transmit : Nat → Bool}
    (wbuffer : List UInt8) (fuel offset : Nat) {frames : List Frame}
    (hPos : offset < wbuffer.length) (hFuel : wbuffer.length - offset ≤ fuel + 1)
    (h : serialLlWriteLoop size transmit wbuffer (fuel + 1) offset (wbuffer.length - offset) =
      (frames, true)) :
    frames = (fragmentsAux size fuel (wbuffer.drop offset)).map hostFrame := by
  induction fuel generalizing offset frames with
  | zero =>
    have hOne : wbuffer.length - offset = 1 := by omega
    simp only [serialLlWriteLoop, hOne, if_neg (show ¬ size < 1 by omega), Nat.zero_lt_one,
      if_true] at h
    split at h
    · cases h
      have hLen : (wbuffer.drop offset).length = 1 := by simp; omega
      simp [fragmentsAux, hostFrame, fragFlags, List.take_of_length_le, hLen]
    · cases h
  | succ fuel ih =>
    rw [serialLlWriteLoop, if_pos (show 0 < wbuffer.length - offset by omega)] at h
    by_cases hMore : size < wbuffer.length - offset
    · simp only [hMore, if_true] at h
      split at h
      · have hRest : wbuffer.length - offset - size = wbuffer.length - (offset + size) := by
          omega
        rw [hRest] at h
        generalize hLoop : serialLlWriteLoop size transmit wbuffer (fuel + 1) (offset + size)
          (wbuffer.length - (offset + size)) = res at h
        obtain ⟨tail, ok⟩ := res
        cases h
        rw [ih _ (by omega) (by omega) hLoop]
        simp [fragmentsAux, hMore, hostFrame, fragFlags]
      · cases h
    · simp only [hMore, if_false, Nat.sub_self, serialLlWriteLoop_done] at h
      split at h
      · cases h
        simp [fragmentsAux, hMore, hostFrame, fragFlags, List.take_of_length_le]
      · cases h

/-- A message that `h_serial_if_send` accepts has left as the fragments of its TLV form. -/
theorem hSerialIfSend_accepted {t : Transport} {env : SendEnv} {data : List UInt8}
    {frames : List Frame} (hLen : data.length + 12 ≤ maxFragmentablePayloadSize)
    (h : hSerialIfSend t env data data.length = some (frames, true)) :
    frames = (fragments t.maxPayloadSize (tlv rpcEpNameRsp data)).map hostFrame := by
  unfold maxFragmentablePayloadSize at hLen
  have hBuf : (3 + rpcEpNameRsp.length + 3 + data.length) % 2 ^ 16 = 12 + data.length := by
    have hEp : rpcEpNameRsp.length = 6 := rfl
    omega
  have hTlv : (tlv rpcEpNameRsp data).length = 12 + data.length := by
    rw [length_tlv]
    have hEp : rpcEpNameRsp.length = 6 := rfl
    omega
  unfold hSerialIfSend at h
  split at h
  · cases h
  · simp only [hBuf] at h
    split at h
    · cases h
    · rw [serialComposeTlv_eq (by omega), Option.map_some, Option.some.injEq] at h
      dsimp only at h
      rw [if_neg (by omega), serialLlWrite, if_neg (by omega)] at h
      split at h
      · cases h
      · rw [← hTlv] at h
        obtain ⟨fuel, hFuel⟩ : ∃ fuel, (tlv rpcEpNameRsp data).length = fuel + 1 :=
          ⟨(tlv rpcEpNameRsp data).length - 1, by omega⟩
        have hSize := t.maxPayloadSize_pos
        have hFrames := serialLlWriteLoop_ok hSize (tlv rpcEpNameRsp data) fuel 0 (by omega)
          (by omega) (by simpa [← hFuel] using h)
        rw [hFrames, List.drop_zero, fragmentsAux_eq hSize (by omega)]

/-! ## Messages that are accepted -/

/-- An environment in which nothing fails. -/
def SendEnv.ideal : SendEnv := ⟨true, fun _ => true⟩

theorem serialLlWriteLoop_ideal (size : Nat) (wbuffer : List UInt8)
    (fuel offset remainingLen : Nat) :
    (serialLlWriteLoop size SendEnv.ideal.transmit wbuffer fuel offset remainingLen).2 = true := by
  induction fuel generalizing offset remainingLen with
  | zero => rfl
  | succ fuel ih =>
    simp only [serialLlWriteLoop]
    split
    · simp only [SendEnv.ideal, if_true]
      exact ih _ _
    · rfl

/-- Every message of a permitted length can be accepted. -/
theorem hSerialIfSend_ideal (t : Transport) {data : List UInt8} (hPos : 1 ≤ data.length)
    (hLen : data.length + 12 ≤ maxFragmentablePayloadSize) :
    ∃ frames, hSerialIfSend t SendEnv.ideal data data.length = some (frames, true) := by
  have hLt : data.length + 12 < 2 ^ 16 := by
    unfold maxFragmentablePayloadSize at hLen
    omega
  have hBuf : (3 + rpcEpNameRsp.length + 3 + data.length) % 2 ^ 16 = 12 + data.length := by
    have hEp : rpcEpNameRsp.length = 6 := rfl
    omega
  unfold hSerialIfSend
  rw [if_neg (by omega)]
  simp only [hBuf, SendEnv.ideal, Bool.not_true, Bool.false_eq_true, if_false]
  rw [serialComposeTlv_eq hLt, Option.map_some]
  dsimp only
  rw [if_neg (by omega), serialLlWrite, if_neg (by omega), if_neg (by omega)]
  exact ⟨_, congrArg some (Prod.ext rfl (serialLlWriteLoop_ideal _ _ _ _ _))⟩

end EspHosted.Serial
