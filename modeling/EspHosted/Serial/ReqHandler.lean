import EspHosted.Serial.Frame

/-!
# The co-processor's request handler

`rpc_req_handler` of `protocomm_pserial.c` walks the TLV records of a request with
`parse_tlv` and passes the endpoint name and the data on to `protocomm_req_handle`.

`rpcReqHandler_tlv`: of a well-formed message it extracts exactly the two values.
-/

namespace EspHosted.Serial

open Bytes

/-- `EPNAME_MAX`. -/
def epnameMax : Nat := 16

/-- Why no request is passed on. `outOfBounds` stands for a read outside the buffer. -/
inductive ReqError
  | outOfBounds
  | epnameTooLong
  | invalidType
  | incomplete
  deriving DecidableEq

/-- One record as `parse_tlv` returns it: type and length, the position of the value, and
the new `buf` and `total_len` (a 32-bit `size_t`). -/
structure TlvRecord where
  type : UInt8
  len : Nat
  ptr : Nat
  buf : Nat
  totalLen : Nat

/-- `parse_tlv` with `*total_len != 0`; `none` is a read outside the buffer. -/
def parseTlv (mem : List UInt8) (buf totalLen : Nat) : Option TlvRecord := do
  let type ← mem[buf]?
  let lenLo ← mem[buf + 1]?
  let lenHi ← mem[buf + 2]?
  let len := le16 lenLo lenHi
  return ⟨type, len, buf + 3, buf + 3 + len, (totalLen + 2 ^ 32 - (len + 3)) % 2 ^ 32⟩

/-- What the walk has found: the array `epname` and the position and length of the data. -/
structure ReqFields where
  epname : List UInt8
  data : Option (Nat × Nat)

/-- The `while` loop of `rpc_req_handler`. Every record takes at least three bytes of the
buffer, so the length of the buffer is fuel enough. -/
def parseRecords (mem : List UInt8) : Nat → Nat → Nat → ReqFields → Except ReqError ReqFields
  | 0, _, _, _ => .error .outOfBounds
  | fuel + 1, buf, totalLen, fields =>
    if totalLen = 0 then .ok fields
    else
      match parseTlv mem buf totalLen with
      | none => .error .outOfBounds
      | some r =>
        if r.type = tlvTypeEpname then
          if epnameMax - 1 ≤ r.len then .error .epnameTooLong
          else if mem.length < r.ptr + r.len then .error .outOfBounds
          else
            let epname := (mem.drop r.ptr).take r.len ++ fields.epname.drop r.len
            parseRecords mem fuel r.buf r.totalLen { fields with epname }
        else if r.type = tlvTypeData then
          parseRecords mem fuel r.buf r.totalLen { fields with data := some (r.ptr, r.len) }
        else .error .invalidType

/-- `rpc_req_handler` up to `protocomm_req_handle`: the endpoint name and the data it is
called with. `mem` is the buffer of the request, `inLen` the length given with it. -/
def rpcReqHandler (mem : List UInt8) (inLen : Nat) :
    Except ReqError (List UInt8 × List UInt8) := do
  let fields ← parseRecords mem (mem.length + 1) 0 inLen ⟨List.replicate epnameMax 0, none⟩
  let epname := fields.epname.takeWhile (· ≠ 0)
  match fields.data with
  | none => .error .incomplete
  | some (ptr, len) =>
    if len = 0 ∨ epname = [] then .error .incomplete
    else if mem.length < ptr + len then .error .outOfBounds
    else .ok (epname, (mem.drop ptr).take len)

/-! ## Well-formed messages -/

theorem parseTlv_record (before value after : List UInt8) (type : UInt8) (totalLen : Nat)
    (hValue : value.length < 2 ^ 16) :
    parseTlv (before ++ record type value ++ after) before.length totalLen =
      some ⟨type, value.length, before.length + 3, before.length + 3 + value.length,
        (totalLen + 2 ^ 32 - (value.length + 3)) % 2 ^ 32⟩ := by
  simp [parseTlv, record, le16_lo_hi hValue]

theorem drop_take_record (before value after : List UInt8) (type : UInt8) :
    ((before ++ record type value ++ after).drop (before.length + 3)).take value.length =
      value := by
  have hLen : before.length + 3 = (before ++ [type, lo value.length, hi value.length]).length :=
    by simp
  have hMem : before ++ record type value ++ after =
      (before ++ [type, lo value.length, hi value.length]) ++ (value ++ after) := by
    simp [record]
  rw [hMem, hLen, List.drop_left, List.take_left]

theorem takeWhile_epname {epname : List UInt8} (hZero : ∀ b ∈ epname, b ≠ 0) {n : Nat}
    (hn : 0 < n) : (epname ++ List.replicate n 0).takeWhile (· ≠ 0) = epname := by
  obtain ⟨n, rfl⟩ := Nat.exists_eq_succ_of_ne_zero (Nat.pos_iff_ne_zero.mp hn)
  rw [List.takeWhile_append_of_pos (by simpa using hZero)]
  simp [List.replicate_succ]

/-- From a message whose endpoint name is a non-empty string that fits and whose data is not
empty, the handler extracts both. -/
theorem rpcReqHandler_tlv {epname data : List UInt8} (hEp : epname ≠ [])
    (hZero : ∀ b ∈ epname, b ≠ 0) (hEpLen : epname.length < epnameMax - 1)
    (hData : data ≠ []) (hLen : data.length < 2 ^ 16) :
    rpcReqHandler (tlv epname data) (tlv epname data).length = .ok (epname, data) := by
  unfold epnameMax at hEpLen
  have hTotal := length_tlv epname data
  have hPos : 0 < data.length := List.length_pos_iff.mpr hData
  have hFirst := parseTlv_record [] epname (record tlvTypeData data) tlvTypeEpname
    (tlv epname data).length (by omega)
  have hSecond := parseTlv_record (record tlvTypeEpname epname) data [] tlvTypeData
    (((tlv epname data).length + 2 ^ 32 - (epname.length + 3)) % 2 ^ 32) hLen
  have hName := drop_take_record [] epname (record tlvTypeData data) tlvTypeEpname
  have hValue := drop_take_record (record tlvTypeEpname epname) data [] tlvTypeData
  have hHead : (record tlvTypeEpname epname).length = 3 + epname.length := by
    simp [record]; omega
  simp only [List.nil_append, List.append_nil, List.length_nil, Nat.zero_add, hHead,
    records_eq_tlv] at hFirst hSecond hName hValue
  obtain ⟨fuel, hFuel⟩ : ∃ fuel, (tlv epname data).length + 1 = fuel + 1 + 1 + 1 :=
    ⟨(tlv epname data).length - 2, by omega⟩
  have hWalk : parseRecords (tlv epname data) ((tlv epname data).length + 1) 0
      (tlv epname data).length ⟨List.replicate epnameMax 0, none⟩ =
      .ok ⟨epname ++ List.replicate (epnameMax - epname.length) 0,
        some (3 + epname.length + 3, data.length)⟩ := by
    rw [hFuel, parseRecords, if_neg (by omega), hFirst]
    simp only [if_true, epnameMax, hName]
    rw [if_neg (by omega), if_neg (by omega), parseRecords, if_neg (by omega), hSecond]
    simp only [show tlvTypeData ≠ tlvTypeEpname by decide, if_false, if_true]
    rw [parseRecords, if_pos (by omega), List.drop_replicate]
  unfold rpcReqHandler
  rw [hWalk]
  simp only [bind, Except.bind]
  rw [takeWhile_epname hZero (by unfold epnameMax; omega), if_neg (by simp [hEp]; omega),
    if_neg (by omega), hValue]

end EspHosted.Serial
