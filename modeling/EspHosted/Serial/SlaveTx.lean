import EspHosted.Serial.Frame

/-!
# Sending a response or an event from the co-processor

`compose_tlv` wraps the serialized message, and `serial_write_data` cuts the buffer into
fragments of at most `ETH_DATA_LEN` bytes, numbers them with a static 16-bit counter and
puts them into the queue to the host.

* `serialWriteData_ok`: a buffer that is accepted has left as its fragments;
* `serialWriteData_prefix`: otherwise the first few of them have left.
-/

namespace EspHosted.Serial

open Bytes Fragments

/-- `ETH_DATA_LEN` of the co-processor. -/
def ethDataLen : Nat := 1500

theorem ethDataLen_pos : 0 < ethDataLen := by decide

/-- The two kinds of message of the co-processor, sent by `rpc_req_handler` and by
`rpc_evt_handler`. -/
inductive Outgoing
  | response (data : List UInt8)
  | event (data : List UInt8)
  deriving DecidableEq

def Outgoing.epname : Outgoing → List UInt8
  | .response _ => rpcEpNameRsp
  | .event _ => rpcEpNameEvt

def Outgoing.data : Outgoing → List UInt8
  | .response data | .event data => data

def Outgoing.wrapped (m : Outgoing) : List UInt8 := tlv m.epname m.data

theorem Outgoing.length_epname (m : Outgoing) : m.epname.length = 6 := by
  cases m <;> rfl

/-- `compose_tlv`. The outer `none` is a write behind the end of the buffer, the inner one
`ESP_FAIL`. -/
def composeTlv (callocOk : Bool) (epname out : List UInt8) : Option (Option (List UInt8)) :=
  if !callocOk then some none
  else do
    let w ← Writer.put ⟨List.replicate (3 + epname.length + 3 + out.length) 0, 0⟩ tlvTypeEpname
    let w ← w.put (lo epname.length)
    let w ← w.put (hi epname.length)
    let w ← w.copy epname
    let w ← w.put tlvTypeData
    let w ← w.put (lo out.length)
    let w ← w.put (hi out.length)
    let w ← w.copy out
    return some w.mem

/-- What one call leaves: the frames that went into the queue, whether the result is
`ESP_OK`, and the static `seq_num`. -/
structure Written where
  frames : List Frame
  ok : Bool
  seqNum : Nat
  deriving DecidableEq

/-- The `do`-`while` loop of `serial_write_data`. `send pos` tells whether
`send_to_host_queue` takes the fragment at `pos`. -/
def serialWriteDataLoop (send : Nat → Bool) (data : List UInt8) : Nat → Nat → Nat → Nat → Written
  | 0, _, _, seqNum => ⟨[], false, seqNum⟩
  | fuel + 1, pos, leftLen, seqNum =>
    let seqNum := (seqNum + 1) % 2 ^ 16
    let fragLen := if ethDataLen < leftLen then ethDataLen else leftLen
    let flags := if ethDataLen < leftLen then moreFragment else 0
    if send pos then
      let frame : Frame := ⟨(data.drop pos).take fragLen, seqNum, flags⟩
      if leftLen - fragLen = 0 then ⟨[frame], true, seqNum⟩
      else
        let rest := serialWriteDataLoop send data fuel (pos + fragLen) (leftLen - fragLen) seqNum
        { rest with frames := frame :: rest.frames }
    else ⟨[], false, seqNum⟩

/-- `serial_write_data`. -/
def serialWriteData (send : Nat → Bool) (seqNum : Nat) (data : List UInt8) : Written :=
  serialWriteDataLoop send data (data.length + 1) 0 data.length seqNum

/-- The end of `rpc_req_handler` and of `rpc_evt_handler`: the message is wrapped and given to
`pserial_cfg->xmit`. -/
def xmit (callocOk : Bool) (send : Nat → Bool) (seqNum : Nat) (m : Outgoing) : Option Written :=
  (composeTlv callocOk m.epname m.data).map fun out =>
    match out with
    | none => ⟨[], false, seqNum⟩
    | some out => serialWriteData send seqNum out

/-! ## What a message becomes -/

theorem composeTlv_eq {epname : List UInt8} (out : List UInt8) (h : epname.length + 6 < 2 ^ 16) :
    composeTlv true epname out = some (some (tlv epname out)) := by
  have hStart : (⟨List.replicate (3 + epname.length + 3 + out.length) 0, 0⟩ : Writer) =
      Writer.filled [] (3 + epname.length + 3 + out.length) := by simp [Writer.filled]
  have hRoom : 3 + epname.length + 3 + out.length - 1 - 1 - 1 - epname.length - 1 - 1 - 1 =
      out.length := by omega
  simp only [composeTlv, Bool.not_true, Bool.false_eq_true, if_false, hStart,
    Option.bind_eq_bind, Option.pure_def]
  rw [Writer.put_filled (by omega) (by simp), Option.bind_some,
    Writer.put_filled (by omega) (by simp), Option.bind_some,
    Writer.put_filled (by omega) (by simp), Option.bind_some,
    Writer.copy_filled (by omega) (by simp; omega), Option.bind_some,
    Writer.put_filled (by omega) (by simp; omega), Option.bind_some,
    Writer.put_filled (by omega) (by simp; omega), Option.bind_some,
    Writer.put_filled (by omega) (by simp; omega), Option.bind_some, hRoom]
  have hCopy := Writer.copy_filled_mem ([] ++ [tlvTypeEpname] ++ [lo epname.length] ++
    [hi epname.length] ++ epname ++ [tlvTypeData] ++ [lo out.length] ++ [hi out.length]) out
  obtain ⟨w, hw, hMem⟩ := Option.map_eq_some_iff.mp hCopy
  rw [hw, Option.bind_some, hMem]
  simp [tlv, record]

theorem xmit_eq (send : Nat → Bool) (seqNum : Nat) (m : Outgoing) :
    xmit true send seqNum m = some (serialWriteData send seqNum m.wrapped) := by
  have hEp := m.length_epname
  rw [xmit, composeTlv_eq _ (by omega)]
  rfl

/-- The fragments from `pos` on; as long as sends succeed these are the frames. -/
theorem serialWriteDataLoop_prefix (send : Nat → Bool) (data : List UInt8) (fuel pos seqNum : Nat)
    (hPos : pos ≤ data.length) (hFuel : data.length - pos ≤ fuel + ethDataLen) :
    let w := serialWriteDataLoop send data (fuel + 1) pos (data.length - pos) seqNum
    let pieces := fragmentsAux ethDataLen fuel (data.drop pos)
    w.frames.map Frame.piece <+: pieces ∧ (w.ok = true → w.frames.map Frame.piece = pieces) := by
  have hSize := ethDataLen_pos
  induction fuel generalizing pos seqNum with
  | zero =>
    have hShort : ¬ ethDataLen < data.length - pos := by omega
    simp only [serialWriteDataLoop, hShort, if_false, Nat.sub_self, if_true, fragmentsAux]
    split
    · simp [Frame.piece, Frame.more, List.take_of_length_le]
    · simp
  | succ fuel ih =>
    rw [serialWriteDataLoop]
    by_cases hLong : ethDataLen < data.length - pos
    · have hRest : data.length - pos - ethDataLen = data.length - (pos + ethDataLen) := by omega
      have hMore : ¬ data.length - (pos + ethDataLen) = 0 := by omega
      have hTail : ethDataLen < (data.drop pos).length := by simpa using hLong
      obtain ⟨hPrefix, hAll⟩ := ih (pos + ethDataLen) ((seqNum + 1) % 2 ^ 16) (by omega) (by omega)
      simp only [hLong, if_true, hRest, hMore, if_false]
      split
      · simp only [fragmentsAux, hTail, if_true, List.drop_drop, List.map_cons]
        refine ⟨?_, ?_⟩
        · simpa [Frame.piece, Frame.more, moreFragment] using hPrefix
        · intro hOk
          have hEq := hAll hOk
          simpa [Frame.piece, Frame.more, moreFragment] using hEq
      · simp
    · have hTail : ¬ ethDataLen < (data.drop pos).length := by simpa using hLong
      simp only [hLong, if_false, Nat.sub_self, if_true, fragmentsAux, hTail]
      split
      · simp [Frame.piece, Frame.more, List.take_of_length_le]
      · simp

/-- What has left is the first few fragments. -/
theorem serialWriteData_prefix (send : Nat → Bool) (seqNum : Nat) (data : List UInt8) :
    (serialWriteData send seqNum data).frames.map Frame.piece <+: fragments ethDataLen data := by
  have h := serialWriteDataLoop_prefix send data data.length 0 seqNum (by omega) (by omega)
  simpa [serialWriteData, fragments] using h.1

theorem serialWriteData_ok {send : Nat → Bool} {seqNum : Nat} {data : List UInt8}
    (h : (serialWriteData send seqNum data).ok = true) :
    (serialWriteData send seqNum data).frames.map Frame.piece = fragments ethDataLen data := by
  have hAll := serialWriteDataLoop_prefix send data data.length 0 seqNum (by omega)
    (by omega)
  simp only [List.drop_zero, Nat.sub_zero] at hAll
  exact hAll.2 h

/-- Every fragment is sent: the first one, and those that begin before the end. -/
def SendsAll (send : Nat → Bool) (pos leftLen : Nat) : Prop :=
  ∀ k, k = 0 ∨ k * ethDataLen < leftLen → send (pos + k * ethDataLen) = true

theorem sendsAll_of_short {send : Nat → Bool} {pos leftLen : Nat} (h : leftLen ≤ ethDataLen) :
    SendsAll send pos leftLen ↔ send pos = true := by
  refine ⟨fun hAll => ?_, fun hSend k hk => ?_⟩
  · have hFirst := hAll 0 (Or.inl rfl)
    rwa [Nat.zero_mul, Nat.add_zero] at hFirst
  · obtain rfl : k = 0 := by
      rcases hk with hk | hk
      · exact hk
      · rcases Nat.eq_zero_or_pos k with hZero | hPos
        · exact hZero
        · have hLe := Nat.le_mul_of_pos_left ethDataLen hPos
          omega
    rwa [Nat.zero_mul, Nat.add_zero]

theorem sendsAll_of_long {send : Nat → Bool} {pos leftLen : Nat} (h : ethDataLen < leftLen) :
    SendsAll send pos leftLen ↔
      send pos = true ∧ SendsAll send (pos + ethDataLen) (leftLen - ethDataLen) := by
  have hShift (k : Nat) : pos + ethDataLen + k * ethDataLen = pos + (k + 1) * ethDataLen := by
    rw [Nat.succ_mul]
    omega
  refine ⟨fun hAll => ⟨?_, fun k hk => ?_⟩, fun ⟨hFirst, hRest⟩ k hk => ?_⟩
  · have hFirst := hAll 0 (Or.inl rfl)
    rwa [Nat.zero_mul, Nat.add_zero] at hFirst
  · rw [hShift]
    refine hAll (k + 1) (Or.inr ?_)
    rw [Nat.succ_mul]
    rcases hk with rfl | hk
    · omega
    · omega
  · cases k with
    | zero => rwa [Nat.zero_mul, Nat.add_zero]
    | succ k =>
      rw [← hShift]
      rcases hk with hk | hk
      · cases hk
      · refine hRest k (Or.inr ?_)
        rw [Nat.succ_mul] at hk
        omega

theorem serialWriteDataLoop_ok_iff (send : Nat → Bool) (data : List UInt8)
    (fuel pos leftLen seqNum : Nat) (hFuel : leftLen ≤ fuel) :
    (serialWriteDataLoop send data (fuel + 1) pos leftLen seqNum).ok = true ↔
      SendsAll send pos leftLen := by
  have hSize := ethDataLen_pos
  induction fuel generalizing pos leftLen seqNum with
  | zero =>
    obtain rfl : leftLen = 0 := by omega
    rw [sendsAll_of_short (Nat.zero_le _), serialWriteDataLoop]
    by_cases hSend : send pos = true
    · simp [hSend]
    · simp [hSend]
  | succ fuel ih =>
    rw [serialWriteDataLoop]
    by_cases hLong : ethDataLen < leftLen
    · rw [sendsAll_of_long hLong]
      simp only [hLong, if_true]
      by_cases hSend : send pos = true
      · rw [if_pos hSend, if_neg (by omega)]
        dsimp only
        have hRest := ih (pos + ethDataLen) (leftLen - ethDataLen) ((seqNum + 1) % 2 ^ 16)
          (by omega)
        exact ⟨fun hOk => ⟨hSend, hRest.mp hOk⟩, fun hBoth => hRest.mpr hBoth.2⟩
      · rw [if_neg hSend]
        simp [hSend]
    · rw [sendsAll_of_short (by omega)]
      simp only [hLong, if_false, Nat.sub_self, if_true]
      by_cases hSend : send pos = true
      · simp [hSend]
      · simp [hSend]

/-- The buffer is accepted exactly if no fragment fails. -/
theorem serialWriteData_ok_iff (send : Nat → Bool) (seqNum : Nat) (data : List UInt8) :
    (serialWriteData send seqNum data).ok = true ↔ SendsAll send 0 data.length :=
  serialWriteDataLoop_ok_iff send data _ _ _ _ (Nat.le_refl _)

/-- When nothing fails, the buffer is accepted. -/
theorem serialWriteData_sent (seqNum : Nat) (data : List UInt8) :
    (serialWriteData (fun _ => true) seqNum data).ok = true :=
  (serialWriteData_ok_iff _ _ _).mpr fun _ _ => rfl

theorem serialWriteDataLoop_le (send : Nat → Bool) (data : List UInt8)
    (fuel pos leftLen seqNum : Nat) :
    (serialWriteDataLoop send data fuel pos leftLen seqNum).frames <+:
      (serialWriteDataLoop (fun _ => true) data fuel pos leftLen seqNum).frames := by
  induction fuel generalizing pos leftLen seqNum with
  | zero => exact List.prefix_rfl
  | succ fuel ih =>
    simp only [serialWriteDataLoop, if_true]
    generalize (if ethDataLen < leftLen then ethDataLen else leftLen) = fragLen
    by_cases hSend : send pos = true
    · rw [if_pos hSend]
      split
      · exact List.prefix_rfl
      · exact List.cons_prefix_cons.mpr ⟨rfl, ih _ _ _⟩
    · rw [if_neg hSend]
      exact List.nil_prefix

/-- A failed send cuts the frames off that would have followed. -/
theorem serialWriteData_le (send : Nat → Bool) (seqNum : Nat) (data : List UInt8) :
    (serialWriteData send seqNum data).frames <+:
      (serialWriteData (fun _ => true) seqNum data).frames :=
  serialWriteDataLoop_le send data _ _ _ _

end EspHosted.Serial
