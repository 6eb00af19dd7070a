import EspHosted.Serial.HostRx

/-!
# Two ports of the serial read

`h_control_serial_drv_read` is written once for ESP-IDF and once for JL. Both take a buffer out of
the queue, look at its two headers in a scratch block and return the data in a block of its own.
The ESP-IDF port ends in a label that frees both pointers, the JL port frees branch by branch.

* `drvRead_ret`: the ports return the same.
* `readsFrame_jl_iff`: the JL port frees every block once, unless the buffer is empty.
* `readsFrame_espIdf_iff`: the ESP-IDF port frees the scratch block twice when a frame is refused.
-/

namespace EspHosted.Serial

open Bytes

/-! ## The ports -/

/-- The heap blocks of one call: the buffer from the queue, the copy of the headers, the data. -/
inductive ReadBlock
  | readBuf
  | header
  | payload
  deriving DecidableEq

/-- What one call returns and does to the heap. The block `payload` is the one returned. -/
structure ReadRun where
  ret : Option (List UInt8)
  outNbyte : Nat
  allocated : List ReadBlock
  freed : List ReadBlock

/-- The label `free_bufs`: `buf` is `NULL` or points to a block, freed or not. -/
def freeBufs (allocated freed : List ReadBlock) (buf : Option ReadBlock) : ReadRun :=
  ⟨none, 0, allocated, freed ++ .readBuf :: buf.toList⟩

/-- `h_control_serial_drv_read` of the ESP-IDF port, behind its semaphore. -/
def hControlSerialDrvReadEspIdf (env : ReadEnv) (b : RxBuf) : ReadRun :=
  -- `serial_ll_read` drops an empty buffer and returns `NULL`
  if b.payloadLen = 0 then ⟨none, 0, [], []⟩
  else if b.payloadLen < initReadLen then ⟨none, 0, [], [.readBuf]⟩
  else if !env.headerOk then freeBufs [] [] none
  else
    match parseTlvHeader (b.payload.take initReadLen) with
    | none => freeBufs [.header] [.header] (some .header)
    | some bufLen =>
      if bufLen = 0 then freeBufs [.header] [.header] (some .header)
      else if b.payloadLen < initReadLen + bufLen then freeBufs [.header] [.header] (some .header)
      else if !env.dataOk then freeBufs [.header] [.header] none
      else ⟨some ((b.payload.drop initReadLen).take bufLen), bufLen, [.header, .payload],
        [.header, .readBuf]⟩

/-- `h_control_serial_drv_read` of the JL port, behind its semaphore. -/
def hControlSerialDrvReadJl (env : ReadEnv) (b : RxBuf) : ReadRun :=
  if b.payloadLen = 0 then ⟨none, 0, [], []⟩
  else if b.payloadLen < initReadLen then ⟨none, 0, [], [.readBuf]⟩
  else if !env.headerOk then ⟨none, 0, [], [.readBuf]⟩
  else
    match parseTlvHeader (b.payload.take initReadLen) with
    | none => ⟨none, 0, [.header], [.header, .readBuf]⟩
    | some payloadLen =>
      if payloadLen = 0 then ⟨none, 0, [.header], [.header, .readBuf]⟩
      else if b.payloadLen < initReadLen + payloadLen then
        ⟨none, 0, [.header], [.header, .readBuf]⟩
      else if !env.dataOk then ⟨none, 0, [.header], [.header, .readBuf]⟩
      else ⟨some ((b.payload.drop initReadLen).take payloadLen), payloadLen, [.header, .payload],
        [.header, .readBuf]⟩

/-! ## What a port should do -/

/-- The bytes that a queued buffer says it has. -/
def received (data : List UInt8) : List UInt8 := data.take (RxBuf.ofData data).payloadLen

/-- `bytes` begins with the endpoint name of a response or an event, followed by `payload`. -/
def IsFrame (bytes payload : List UInt8) : Prop :=
  payload ≠ [] ∧ payload.length < 2 ^ 16 ∧
    ∃ epname trailing, (epname = rpcEpNameRsp ∨ epname = rpcEpNameEvt) ∧
      bytes = tlv epname payload ++ trailing

/-- Every block that the call was given or allocated is freed once or returned. -/
def FreedOnce (run : ReadRun) : Prop :=
  ∀ block, run.freed.count block + (if block = .payload ∧ run.ret.isSome then 1 else 0) =
    (ReadBlock.readBuf :: run.allocated).count block

/-- The data of a frame is returned and `NULL` for anything else, and no block is lost or freed
twice. -/
structure ReadsFrame (env : ReadEnv) (data : List UInt8) (run : ReadRun) : Prop where
  ret_iff : ∀ payload, run.ret = some payload ↔
    env.headerOk = true ∧ env.dataOk = true ∧ IsFrame (received data) payload
  outNbyte_eq : run.outNbyte = (run.ret.getD []).length
  freed_once : FreedOnce run

/-! ## The headers of a frame -/

theorem length_received (data : List UInt8) :
    (received data).length = (RxBuf.ofData data).payloadLen :=
  List.length_take_of_le (Nat.mod_le _ _)

/-- The two headers that `parse_tlv` accepts. -/
theorem parseTlvHeader_eq_some {head : List UInt8} {n : Nat} (hLen : head.length = initReadLen)
    (hParse : parseTlvHeader head = some n) :
    ∃ epname low high, (epname = rpcEpNameRsp ∨ epname = rpcEpNameEvt) ∧
      head = record tlvTypeEpname epname ++ [tlvTypeData, low, high] ∧ n = le16 low high := by
  match head, hLen with
  | [t, l, h, a, b, c, d, e, f, t', low, high], _ =>
    unfold parseTlvHeader at hParse
    simp only [List.getD_cons_zero, List.getD_cons_succ, List.drop_succ_cons, List.drop_zero,
      List.take_succ_cons, List.take_zero] at hParse
    split at hParse
    · cases hParse
    rename_i hType
    split at hParse
    · cases hParse
    rename_i hEpLen
    split at hParse
    · cases hParse
    rename_i hName
    split at hParse
    · cases hParse
    rename_i hData
    have hSix : rpcEpNameRsp.length = 6 := rfl
    have hType := not_not.mp hType
    have hData := not_not.mp hData
    have hEpLen : le16 l h = 6 := by rw [not_not.mp hEpLen, hSix]
    have hLow : lo 6 = l := by rw [← hEpLen, lo_le16]
    have hHigh : hi 6 = h := by rw [← hEpLen, hi_le16]
    refine ⟨[a, b, c, d, e, f], low, high, ?_, ?_, (Option.some.inj hParse).symm⟩
    · by_contra hOther
      exact hName (not_or.mp hOther)
    · simp [record, hType, hData, hLow, hHigh]

/-- A frame is what `parse_tlv` accepts with a length that is not zero and fits. -/
theorem isFrame_iff {bytes payload : List UInt8} (hLen : initReadLen ≤ bytes.length) :
    IsFrame bytes payload ↔ ∃ n, parseTlvHeader (bytes.take initReadLen) = some n ∧ n ≠ 0 ∧
      initReadLen + n ≤ bytes.length ∧ payload = (bytes.drop initReadLen).take n := by
  constructor
  · rintro ⟨hNe, hShort, epname, trailing, hEp, rfl⟩
    have hSix : epname.length = 6 := by rcases hEp with rfl | rfl <;> rfl
    have hTlv : (tlv epname payload).length = initReadLen + payload.length := by
      rw [length_tlv, hSix, initReadLen]
      omega
    refine ⟨payload.length, ?_, ?_, ?_, ?_⟩
    · rw [List.take_append_of_le_length (by omega)]
      exact parseTlvHeader_tlv hEp hShort
    · exact fun hZero => hNe (List.eq_nil_of_length_eq_zero hZero)
    · rw [List.length_append]
      omega
    · rw [List.drop_append_of_le_length (by omega), drop_tlv hSix, List.take_left]
  · rintro ⟨n, hParse, hNe, hFits, rfl⟩
    obtain ⟨epname, low, high, hEp, hHead, rfl⟩ :=
      parseTlvHeader_eq_some (List.length_take_of_le hLen) hParse
    have hTake : ((bytes.drop initReadLen).take (le16 low high)).length = le16 low high := by
      rw [List.length_take, List.length_drop]
      omega
    refine ⟨?_, ?_, epname, (bytes.drop initReadLen).drop (le16 low high), hEp, ?_⟩
    · intro hNil
      rw [hNil] at hTake
      exact hNe hTake.symm
    · rw [hTake]
      exact le16_lt low high
    · have hTlv : tlv epname ((bytes.drop initReadLen).take (le16 low high)) =
          bytes.take initReadLen ++ (bytes.drop initReadLen).take (le16 low high) := by
        rw [hHead, tlv, record.eq_def tlvTypeData, hTake, lo_le16, hi_le16, List.append_assoc]
        rfl
      rw [hTlv, List.append_assoc, List.take_append_drop, List.take_append_drop]

variable {data : List UInt8}

theorem received_take (hLen : initReadLen ≤ (RxBuf.ofData data).payloadLen) :
    (received data).take initReadLen = (RxBuf.ofData data).payload.take initReadLen := by
  rw [received, List.take_take, Nat.min_eq_left hLen]
  rfl

theorem received_drop {n : Nat} (hLen : initReadLen + n ≤ (RxBuf.ofData data).payloadLen) :
    ((received data).drop initReadLen).take n =
      ((RxBuf.ofData data).payload.drop initReadLen).take n := by
  rw [received, List.drop_take, List.take_take, Nat.min_eq_left (by omega)]
  rfl

/-- The same of the buffer that is read. -/
theorem isFrame_received_iff {payload : List UInt8}
    (hLen : initReadLen ≤ (RxBuf.ofData data).payloadLen) :
    IsFrame (received data) payload ↔
      ∃ n, parseTlvHeader ((RxBuf.ofData data).payload.take initReadLen) = some n ∧ n ≠ 0 ∧
        initReadLen + n ≤ (RxBuf.ofData data).payloadLen ∧
        payload = ((RxBuf.ofData data).payload.drop initReadLen).take n := by
  rw [isFrame_iff (by rw [length_received]; exact hLen), received_take hLen, length_received]
  constructor
  · rintro ⟨n, hParse, hNe, hFits, rfl⟩
    exact ⟨n, hParse, hNe, hFits, received_drop hFits⟩
  · rintro ⟨n, hParse, hNe, hFits, rfl⟩
    exact ⟨n, hParse, hNe, hFits, (received_drop hFits).symm⟩

theorem not_isFrame_of_short {payload : List UInt8}
    (hLen : (RxBuf.ofData data).payloadLen < initReadLen) : ¬IsFrame (received data) payload := by
  rintro ⟨-, -, epname, trailing, hEp, hBytes⟩
  have hSix : epname.length = 6 := by rcases hEp with rfl | rfl <;> rfl
  rw [← length_received, hBytes, List.length_append, length_tlv, hSix, initReadLen] at hLen
  omega

/-! ## What the ports return -/

/-- The ports return the same bytes and the same length. -/
theorem drvRead_ret (env : ReadEnv) (b : RxBuf) :
    (hControlSerialDrvReadEspIdf env b).ret = (hControlSerialDrvReadJl env b).ret ∧
    (hControlSerialDrvReadEspIdf env b).outNbyte = (hControlSerialDrvReadJl env b).outNbyte := by
  unfold hControlSerialDrvReadEspIdf hControlSerialDrvReadJl
  by_cases hZero : b.payloadLen = 0
  · rw [if_pos hZero, if_pos hZero]
    exact ⟨rfl, rfl⟩
  rw [if_neg hZero, if_neg hZero]
  by_cases hShort : b.payloadLen < initReadLen
  · rw [if_pos hShort, if_pos hShort]
    exact ⟨rfl, rfl⟩
  rw [if_neg hShort, if_neg hShort]
  by_cases hHeader : (!env.headerOk) = true
  · rw [if_pos hHeader, if_pos hHeader]
    exact ⟨rfl, rfl⟩
  rw [if_neg hHeader, if_neg hHeader]
  cases parseTlvHeader (b.payload.take initReadLen) with
  | none => exact ⟨rfl, rfl⟩
  | some n =>
    dsimp only
    split
    · exact ⟨rfl, rfl⟩
    split
    · exact ⟨rfl, rfl⟩
    split <;> exact ⟨rfl, rfl⟩

theorem drvReadJl_ret_iff (env : ReadEnv) (data payload : List UInt8) :
    (hControlSerialDrvReadJl env (.ofData data)).ret = some payload ↔
      env.headerOk = true ∧ env.dataOk = true ∧ IsFrame (received data) payload := by
  have hHead : 0 < initReadLen := by decide
  unfold hControlSerialDrvReadJl
  split
  · exact iff_of_false (by simp) fun h => not_isFrame_of_short (by omega) h.2.2
  split
  · rename_i hShort
    exact iff_of_false (by simp) fun h => not_isFrame_of_short hShort h.2.2
  rename_i hLen
  rw [isFrame_received_iff (by omega)]
  cases env.headerOk with
  | false => exact iff_of_false (by simp) (by simp)
  | true =>
    rw [if_neg (by decide)]
    cases parseTlvHeader ((RxBuf.ofData data).payload.take initReadLen) with
    | none => exact iff_of_false (by simp) (by simp)
    | some n =>
      dsimp only
      by_cases hZero : n = 0
      · rw [if_pos hZero]
        exact iff_of_false (by simp) (by simp [hZero])
      rw [if_neg hZero]
      by_cases hFits : (RxBuf.ofData data).payloadLen < initReadLen + n
      · rw [if_pos hFits]
        exact iff_of_false (by simp) (by simp; omega)
      rw [if_neg hFits]
      cases env.dataOk with
      | false => exact iff_of_false (by simp) (by simp)
      | true =>
        simp only [Bool.not_true, Bool.false_eq_true, if_false, true_and, Option.some.injEq]
        constructor
        · rintro rfl
          exact ⟨n, rfl, hZero, by omega, rfl⟩
        · rintro ⟨_, rfl, -, -, hPayload⟩
          exact hPayload.symm

theorem drvReadJl_outNbyte (env : ReadEnv) (data : List UInt8) :
    (hControlSerialDrvReadJl env (.ofData data)).outNbyte =
      ((hControlSerialDrvReadJl env (.ofData data)).ret.getD []).length := by
  unfold hControlSerialDrvReadJl
  split
  · rfl
  split
  · rfl
  split
  · rfl
  cases parseTlvHeader ((RxBuf.ofData data).payload.take initReadLen) with
  | none => rfl
  | some n =>
    dsimp only
    split
    · rfl
    split
    · rfl
    split
    · rfl
    rename_i hFits _
    have hLe : (RxBuf.ofData data).payloadLen ≤ (RxBuf.ofData data).payload.length :=
      Nat.mod_le _ _
    simp only [Option.getD_some, List.length_take, List.length_drop]
    omega

/-! ## What the ports free -/

/-- The JL port loses an empty buffer, and nothing else. -/
theorem drvReadJl_freedOnce_iff (env : ReadEnv) (b : RxBuf) :
    FreedOnce (hControlSerialDrvReadJl env b) ↔ b.payloadLen ≠ 0 := by
  unfold hControlSerialDrvReadJl
  by_cases hZero : b.payloadLen = 0
  · rw [if_pos hZero]
    exact iff_of_false (fun h => absurd (h .readBuf) (by decide)) (fun h => h hZero)
  rw [if_neg hZero]
  refine iff_of_true ?_ hZero
  intro block
  split
  · cases block <;> rfl
  split
  · cases block <;> rfl
  cases parseTlvHeader (b.payload.take initReadLen) with
  | none => cases block <;> rfl
  | some n =>
    dsimp only
    split
    · cases block <;> rfl
    split
    · cases block <;> rfl
    split <;> cases block <;> rfl

/-- The ESP-IDF port frees the block of the headers twice when it refuses them. -/
theorem drvReadEspIdf_freedOnce_iff (env : ReadEnv) (data : List UInt8) :
    FreedOnce (hControlSerialDrvReadEspIdf env (.ofData data)) ↔
      (RxBuf.ofData data).payloadLen ≠ 0 ∧
        ((RxBuf.ofData data).payloadLen < initReadLen ∨ env.headerOk = false ∨
          ∃ payload, IsFrame (received data) payload) := by
  unfold hControlSerialDrvReadEspIdf
  by_cases hZero : (RxBuf.ofData data).payloadLen = 0
  · rw [if_pos hZero]
    exact iff_of_false (fun h => absurd (h .readBuf) (by decide)) (fun h => h.1 hZero)
  rw [if_neg hZero]
  by_cases hShort : (RxBuf.ofData data).payloadLen < initReadLen
  · rw [if_pos hShort]
    refine iff_of_true ?_ ⟨hZero, Or.inl hShort⟩
    intro block
    cases block <;> rfl
  rw [if_neg hShort]
  cases hHeader : env.headerOk with
  | false =>
    refine iff_of_true ?_ ⟨hZero, Or.inr (Or.inl rfl)⟩
    intro block
    cases block <;> rfl
  | true =>
    rw [if_neg (by decide)]
    have hTwice : ¬FreedOnce (freeBufs [.header] [.header] (some .header)) :=
      fun h => absurd (h .header) (by decide)
    have hFrame : (∃ payload, IsFrame (received data) payload) ↔
        ∃ n, parseTlvHeader ((RxBuf.ofData data).payload.take initReadLen) = some n ∧ n ≠ 0 ∧
          initReadLen + n ≤ (RxBuf.ofData data).payloadLen := by
      simp only [isFrame_received_iff
        (show initReadLen ≤ (RxBuf.ofData data).payloadLen by omega)]
      constructor
      · rintro ⟨_, n, hParse, hNe, hFits, -⟩
        exact ⟨n, hParse, hNe, hFits⟩
      · rintro ⟨n, hParse, hNe, hFits⟩
        exact ⟨_, n, hParse, hNe, hFits, rfl⟩
    rw [hFrame]
    cases parseTlvHeader ((RxBuf.ofData data).payload.take initReadLen) with
    | none => exact iff_of_false hTwice (by simp [hShort])
    | some n =>
      dsimp only
      by_cases hNone : n = 0
      · rw [if_pos hNone]
        exact iff_of_false hTwice (by simp [hShort, hNone])
      rw [if_neg hNone]
      by_cases hFits : (RxBuf.ofData data).payloadLen < initReadLen + n
      · rw [if_pos hFits]
        refine iff_of_false hTwice ?_
        simp only [hShort, Option.some.injEq, false_or, reduceCtorEq]
        rintro ⟨-, _, rfl, -, hLe⟩
        omega
      · rw [if_neg hFits]
        refine iff_of_true ?_ ⟨hZero, Or.inr (Or.inr ⟨n, rfl, hNone, by omega⟩)⟩
        intro block
        split <;> cases block <;> rfl

/-! ## The ports side by side -/

theorem readsFrame_jl_iff (env : ReadEnv) (data : List UInt8) :
    ReadsFrame env data (hControlSerialDrvReadJl env (.ofData data)) ↔
      (RxBuf.ofData data).payloadLen ≠ 0 := by
  rw [← drvReadJl_freedOnce_iff env]
  exact ⟨ReadsFrame.freed_once,
    fun h => ⟨drvReadJl_ret_iff env data, drvReadJl_outNbyte env data, h⟩⟩

theorem readsFrame_espIdf_iff (env : ReadEnv) (data : List UInt8) :
    ReadsFrame env data (hControlSerialDrvReadEspIdf env (.ofData data)) ↔
      (RxBuf.ofData data).payloadLen ≠ 0 ∧
        ((RxBuf.ofData data).payloadLen < initReadLen ∨ env.headerOk = false ∨
          ∃ payload, IsFrame (received data) payload) := by
  rw [← drvReadEspIdf_freedOnce_iff env]
  obtain ⟨hRet, hOut⟩ := drvRead_ret env (.ofData data)
  constructor
  · exact ReadsFrame.freed_once
  · intro hFreed
    refine ⟨?_, ?_, hFreed⟩
    · rw [hRet]
      exact drvReadJl_ret_iff env data
    · rw [hOut, hRet]
      exact drvReadJl_outNbyte env data

/-- Both ports read a buffer as they should, and alike. -/
def PortsAgree (env : ReadEnv) (data : List UInt8) : Prop :=
  ReadsFrame env data (hControlSerialDrvReadEspIdf env (.ofData data)) ∧
    ReadsFrame env data (hControlSerialDrvReadJl env (.ofData data)) ∧
    (hControlSerialDrvReadEspIdf env (.ofData data)).ret =
      (hControlSerialDrvReadJl env (.ofData data)).ret ∧
    (hControlSerialDrvReadEspIdf env (.ofData data)).outNbyte =
      (hControlSerialDrvReadJl env (.ofData data)).outNbyte

/-- They do when the buffer is not empty and its headers are not refused: it is too short for
them, there is no memory to look at them, or it holds a frame. -/
theorem portsAgree_iff (env : ReadEnv) (data : List UInt8) :
    PortsAgree env data ↔
      data.length % 65536 ≠ 0 ∧ (data.length % 65536 < 12 ∨ env.headerOk = false ∨
        ∃ payload, IsFrame (received data) payload) := by
  unfold PortsAgree
  rw [readsFrame_espIdf_iff, readsFrame_jl_iff]
  constructor
  · exact fun h => h.1
  · exact fun h => ⟨h, h.1, drvRead_ret env (.ofData data)⟩

/-- Twelve zero bytes: the ESP-IDF port frees its scratch block, then both pointers. -/
theorem not_portsAgree : ¬∀ env data, PortsAgree env data := by
  intro h
  obtain ⟨hEspIdf, -⟩ := h .ideal (List.replicate 12 0)
  exact absurd (hEspIdf.freed_once .header) (by decide)

/-! ## The reader of the receive path -/

/-- `hControlSerialDrvRead` is the ESP-IDF port, with a block that is freed twice as a fault. -/
theorem hControlSerialDrvRead_eq (env : ReadEnv) (b : RxBuf) :
    hControlSerialDrvRead env b =
      if (hControlSerialDrvReadEspIdf env b).freed.Nodup then
        some (hControlSerialDrvReadEspIdf env b).ret
      else none := by
  unfold hControlSerialDrvRead hControlSerialDrvReadEspIdf
  by_cases hZero : b.payloadLen = 0
  · rw [if_pos hZero, if_pos hZero]
    rfl
  rw [if_neg hZero, if_neg hZero]
  by_cases hShort : b.payloadLen < initReadLen
  · rw [if_pos hShort, if_pos hShort]
    rfl
  rw [if_neg hShort, if_neg hShort]
  by_cases hHeader : (!env.headerOk) = true
  · rw [if_pos hHeader, if_pos hHeader]
    rfl
  rw [if_neg hHeader, if_neg hHeader]
  cases parseTlvHeader (b.payload.take initReadLen) with
  | none => rfl
  | some n =>
    dsimp only
    split
    · rfl
    split
    · rfl
    split <;> rfl

end EspHosted.Serial
