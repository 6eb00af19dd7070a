import EspHosted.Serial.ReqHandler
import Mathlib.Data.List.TakeWhile

/-!
# The walk of the request handler over any input

The `while` loop of `rpc_req_handler` ends when `total_len` is exactly zero, and `parse_tlv`
subtracts the length that a record claims to have without comparing it with what is left. So the
walk stays inside the input as long as every record it comes to is complete.

`epname` is not cleared before a later endpoint name is copied over an earlier one.

* `Walkable`: the inputs of complete records, up to the first one that is refused, in which
  nothing of an earlier endpoint name stands behind a later one.
* `reqSafe_iff`: on these inputs and no others the handler does what it should.
-/

namespace EspHosted.Serial

open Bytes

/-! ## What the handler should do -/

/-- The C string at the start of an array. -/
def cString (bytes : List UInt8) : List UInt8 := bytes.takeWhile (· ≠ 0)

/-- What `memcpy(epname, ptr, len)` leaves in `epname`. -/
def copyEpname (mem : List UInt8) (r : TlvRecord) (epname : List UInt8) : List UInt8 :=
  (mem.drop r.ptr).take r.len ++ epname.drop r.len

/-- The states in which the `while` loop calls `parse_tlv`: position, `total_len`, and what was
found so far. -/
inductive Visits (mem : List UInt8) : Nat → Nat → ReqFields → Prop
  | start : Visits mem 0 mem.length ⟨List.replicate epnameMax 0, none⟩
  | endpoint {buf totalLen : Nat} {fields : ReqFields} {r : TlvRecord} :
    Visits mem buf totalLen fields → totalLen ≠ 0 → parseTlv mem buf totalLen = some r →
    r.type = tlvTypeEpname → r.len < epnameMax - 1 →
    Visits mem r.buf r.totalLen { fields with epname := copyEpname mem r fields.epname }
  | data {buf totalLen : Nat} {fields : ReqFields} {r : TlvRecord} :
    Visits mem buf totalLen fields → totalLen ≠ 0 → parseTlv mem buf totalLen = some r →
    r.type = tlvTypeData →
    Visits mem r.buf r.totalLen { fields with data := some (r.ptr, r.len) }

/-- The record at a position is read inside the input and `total_len` does not wrap. An endpoint
name that is taken over is read inside the input too, and its string is then in `epname`. -/
def RecordSafe (mem : List UInt8) (buf totalLen : Nat) (fields : ReqFields) : Prop :=
  ∃ r, parseTlv mem buf totalLen = some r ∧ r.len + 3 ≤ totalLen ∧
    (r.type = tlvTypeEpname → r.len < epnameMax - 1 → r.ptr + r.len ≤ mem.length ∧
      cString (copyEpname mem r fields.epname) = cString ((mem.drop r.ptr).take r.len))

/-- The outcome of the handler: a refusal, or an endpoint name and data that are in the input. -/
def OutcomeSafe (input : List UInt8) : Except ReqError (List UInt8 × List UInt8) → Prop
  | .error e => e ≠ .outOfBounds
  | .ok (epname, data) => epname <:+: input ∧ data <:+: input

/-- Every record the walk comes to is safe, and the walk ends with a safe outcome. -/
structure ReqSafe (input : List UInt8) : Prop where
  records : ∀ buf totalLen fields, Visits input buf totalLen fields → totalLen ≠ 0 →
    RecordSafe input buf totalLen fields
  outcome : OutcomeSafe input (rpcReqHandler input input.length)

/-! ## Inputs of complete records -/

/-- The byte at `n` after the names, the last one first, were written over each other. -/
def behind : List (List UInt8) → Nat → UInt8
  | [], _ => 0
  | name :: names, n => if h : n < name.length then name[n] else behind names n

/-- A record that the handler refuses. -/
def Refused (type : UInt8) (value : List UInt8) : Prop :=
  if type = tlvTypeEpname then epnameMax - 1 ≤ value.length else type ≠ tlvTypeData

/-- An input of complete records that comes after the endpoint names `names`, the last one first.
A name must bring its own end, unless a zero already stands behind it. -/
inductive Walkable : List (List UInt8) → List UInt8 → Prop
  | done {names : List (List UInt8)} : Walkable names []
  | refused {names : List (List UInt8)} {type : UInt8} {value after : List UInt8} :
    value.length < 2 ^ 16 → Refused type value → Walkable names (record type value ++ after)
  | endpoint {names : List (List UInt8)} {value after : List UInt8} :
    value.length < epnameMax - 1 → 0 ∈ value ∨ behind names value.length = 0 →
    Walkable (value :: names) after → Walkable names (record tlvTypeEpname value ++ after)
  | data {names : List (List UInt8)} {value after : List UInt8} :
    value.length < 2 ^ 16 → Walkable names after →
    Walkable names (record tlvTypeData value ++ after)

/-! ## Reading one record -/

theorem length_record (type : UInt8) (value : List UInt8) :
    (record type value).length = value.length + 3 := rfl

/-- A complete record is read as it is, and what is left is counted right. -/
theorem parseTlv_complete {before value after : List UInt8} {type : UInt8}
    (hValue : value.length < 2 ^ 16) (hAfter : after.length < 2 ^ 32) :
    parseTlv (before ++ record type value ++ after) before.length
        (record type value ++ after).length =
      some ⟨type, value.length, before.length + 3, (before ++ record type value).length,
        after.length⟩ := by
  have hBuf : (before ++ record type value).length = before.length + 3 + value.length := by
    rw [List.length_append, length_record]
    omega
  have hTotal : ((record type value ++ after).length + 2 ^ 32 - (value.length + 3)) % 2 ^ 32 =
      after.length := by
    rw [List.length_append, length_record]
    omega
  rw [parseTlv_record before value after type _ hValue, hTotal, hBuf]

theorem parseTlv_cons (before tail : List UInt8) (type low high : UInt8) (totalLen : Nat) :
    parseTlv (before ++ type :: low :: high :: tail) before.length totalLen =
      some ⟨type, le16 low high, before.length + 3, before.length + 3 + le16 low high,
        (totalLen + 2 ^ 32 - (le16 low high + 3)) % 2 ^ 32⟩ := by
  simp [parseTlv]

/-- If a record is read inside the input and does not claim more than is left, it is complete. -/
theorem record_of_parseTlv {before rest : List UInt8} {r : TlvRecord}
    (hParse : parseTlv (before ++ rest) before.length rest.length = some r)
    (hLen : r.len + 3 ≤ rest.length) :
    ∃ type value after, rest = record type value ++ after ∧ value.length < 2 ^ 16 := by
  obtain ⟨type, low, high, tail, rfl⟩ :
      ∃ type low high tail, rest = type :: low :: high :: tail := by
    match rest, hLen with
    | type :: low :: high :: tail, _ => exact ⟨type, low, high, tail, rfl⟩
  rw [parseTlv_cons, Option.some.injEq] at hParse
  have hClaim : le16 low high = r.len := congrArg TlvRecord.len hParse
  rw [List.length_cons, List.length_cons, List.length_cons] at hLen
  have hTake : (tail.take r.len).length = r.len := List.length_take_of_le (by omega)
  have hLt := le16_lt low high
  refine ⟨type, tail.take r.len, tail.drop r.len, ?_, by omega⟩
  rw [record, hTake, ← hClaim, lo_le16, hi_le16]
  simp only [List.cons_append, List.take_append_drop]

/-! ## The array of the endpoint name -/

theorem cString_of_mem {value : List UInt8} (hZero : 0 ∈ value) (rest : List UInt8) :
    cString (value ++ rest) = cString value := by
  unfold cString
  rw [List.takeWhile_append, if_neg]
  intro hAll
  have hSelf := (List.takeWhile_prefix (· ≠ (0 : UInt8))).eq_of_length hAll
  exact absurd (List.takeWhile_eq_self_iff.mp hSelf 0 hZero) (by decide)

theorem cString_of_not_mem {value : List UInt8} (hZero : 0 ∉ value) (rest : List UInt8) :
    cString (value ++ rest) = value ++ cString rest := by
  unfold cString
  apply List.takeWhile_append_of_pos
  intro b hMem
  exact decide_eq_true fun hb => hZero (hb ▸ hMem)

theorem cString_isPrefix (value : List UInt8) : cString value <+: value := List.takeWhile_prefix _

/-- `epname` holds the names that were copied into it, over each other. -/
structure Overlaid (names : List (List UInt8)) (epname : List UInt8) : Prop where
  length_eq : epname.length = epnameMax
  bytes : ∀ n (hn : n < epname.length), epname[n] = behind names n

theorem overlaid_start : Overlaid [] (List.replicate epnameMax 0) :=
  ⟨List.length_replicate, fun _ hn => List.getElem_replicate hn⟩

variable {names : List (List UInt8)} {epname value : List UInt8}

theorem Overlaid.copy (hNames : Overlaid names epname) (hValue : value.length < epnameMax - 1) :
    Overlaid (value :: names) (value ++ epname.drop value.length) := by
  have hEp := hNames.length_eq
  refine ⟨?_, ?_⟩
  · rw [List.length_append, List.length_drop]
    omega
  · intro n hn
    unfold behind
    split
    · rename_i hLt
      rw [List.getElem_append_left hLt]
    · rename_i hLe
      rw [List.getElem_append_right (by omega), List.getElem_drop]
      rw [List.length_append, List.length_drop] at hn
      have hIndex : value.length + (n - value.length) = n := by omega
      simp only [hIndex]
      exact hNames.bytes n (by omega)

/-- A name that is copied over earlier ones is read back exactly when it brings its end, or a
zero stands behind it already. -/
theorem Overlaid.cString_iff (hNames : Overlaid names epname)
    (hValue : value.length < epnameMax - 1) :
    cString (value ++ epname.drop value.length) = cString value ↔
      0 ∈ value ∨ behind names value.length = 0 := by
  by_cases hZero : 0 ∈ value
  · exact iff_of_true (cString_of_mem hZero _) (Or.inl hZero)
  · have hEp := hNames.length_eq
    have hLt : value.length < epname.length := by omega
    have hSelf := cString_of_not_mem hZero []
    rw [List.append_nil] at hSelf
    rw [cString_of_not_mem hZero, hSelf, List.drop_eq_getElem_cons hLt, hNames.bytes _ hLt,
      List.append_cancel_left_eq]
    unfold cString
    rw [List.takeWhile_cons]
    by_cases hEnd : behind names value.length = 0
    · simp [hEnd]
    · simp [hEnd, hZero]

/-! ## The walk over complete records -/

/-- The walk has come to `rest` after the names `names`; the endpoint name and the data that it
has found are in the input. -/
structure Stands (input rest : List UInt8) (names : List (List UInt8)) (buf totalLen : Nat)
    (fields : ReqFields) : Prop where
  split : ∃ before, input = before ++ rest ∧ buf = before.length
  total : totalLen = rest.length
  short : rest.length < 2 ^ 32
  overlaid : Overlaid names fields.epname
  name_infix : cString fields.epname <:+: input
  data_inside : ∀ ptr len, fields.data = some (ptr, len) → ptr + len ≤ input.length

theorem stands_start {input : List UInt8} (hLen : input.length < 2 ^ 32) :
    Stands input input [] 0 input.length ⟨List.replicate epnameMax 0, none⟩ where
  split := ⟨[], rfl, rfl⟩
  total := rfl
  short := hLen
  overlaid := overlaid_start
  name_infix := List.nil_infix
  data_inside := fun _ _ hData => nomatch hData

namespace Stands

variable {input after : List UInt8} {type : UInt8} {buf totalLen : Nat} {fields : ReqFields}

/-- `parse_tlv` at a complete record. -/
theorem parse (h : Stands input (record type value ++ after) names buf totalLen fields)
    (hValue : value.length < 2 ^ 16) :
    parseTlv input buf totalLen =
      some ⟨type, value.length, buf + 3, buf + 3 + value.length, after.length⟩ ∧
    buf + 3 + value.length ≤ input.length ∧
    (input.drop (buf + 3)).take value.length = value := by
  obtain ⟨before, hInput, hBuf⟩ := h.split
  have hShort := h.short
  rw [List.length_append, length_record] at hShort
  have hAfter : after.length < 2 ^ 32 := by omega
  have hComplete : parseTlv (before ++ record type value ++ after) before.length _ = _ :=
    parseTlv_complete hValue hAfter
  rw [h.total, hInput, hBuf, ← List.append_assoc]
  refine ⟨?_, ?_, drop_take_record before value after type⟩
  · rw [hComplete, List.length_append, length_record]
    congr 2
    omega
  · simp only [List.length_append, length_record]
    omega

/-- The walk goes on behind a complete record. -/
theorem behind_record (h : Stands input (record type value ++ after) names buf totalLen fields) :
    (∃ before, input = before ++ after ∧ buf + 3 + value.length = before.length) ∧
      after.length < 2 ^ 32 := by
  obtain ⟨before, hInput, hBuf⟩ := h.split
  have hShort := h.short
  rw [List.length_append, length_record] at hShort
  refine ⟨⟨before ++ record type value, ?_, ?_⟩, by omega⟩
  · rw [hInput, List.append_assoc]
  · rw [List.length_append, length_record]
    omega

theorem endpoint (h : Stands input (record tlvTypeEpname value ++ after) names buf totalLen fields)
    (hValue : value.length < epnameMax - 1)
    (hEnd : 0 ∈ value ∨ behind names value.length = 0) :
    Stands input after (value :: names) (buf + 3 + value.length) after.length
      { fields with epname := value ++ fields.epname.drop value.length } where
  split := h.behind_record.1
  total := rfl
  short := h.behind_record.2
  overlaid := h.overlaid.copy hValue
  name_infix := by
    dsimp only
    rw [(h.overlaid.cString_iff hValue).mpr hEnd]
    have hLt : value.length < 2 ^ 16 := by unfold epnameMax at hValue; omega
    apply (cString_isPrefix value).isInfix.trans
    rw [← (h.parse hLt).2.2]
    exact (List.take_prefix _ _).isInfix.trans (List.drop_suffix _ _).isInfix
  data_inside := h.data_inside

theorem data (h : Stands input (record tlvTypeData value ++ after) names buf totalLen fields)
    (hValue : value.length < 2 ^ 16) :
    Stands input after names (buf + 3 + value.length) after.length
      { fields with data := some (buf + 3, value.length) } where
  split := h.behind_record.1
  total := rfl
  short := h.behind_record.2
  overlaid := h.overlaid
  name_infix := h.name_infix
  data_inside := by
    rintro ptr len hData
    cases hData
    exact (h.parse hValue).2.1

/-- A record that the walk goes past is an endpoint name or data. -/
theorem recordSafe (h : Stands input (record type value ++ after) names buf totalLen fields)
    (hValue : value.length < 2 ^ 16)
    (hName : type = tlvTypeEpname → value.length < epnameMax - 1 →
      0 ∈ value ∨ behind names value.length = 0) :
    RecordSafe input buf totalLen fields := by
  obtain ⟨hParse, hInside, hTaken⟩ := h.parse hValue
  refine ⟨_, hParse, ?_, ?_⟩
  · rw [h.total, List.length_append, length_record]
    dsimp only
    omega
  · intro hType hShort
    refine ⟨hInside, ?_⟩
    unfold copyEpname
    dsimp only
    rw [hTaken]
    exact (h.overlaid.cString_iff hShort).mpr (hName hType hShort)

end Stands

variable {input rest : List UInt8} {buf totalLen : Nat} {fields : ReqFields}

theorem recordSafe_of_walkable (h : Stands input rest names buf totalLen fields)
    (hWalk : Walkable names rest) (hNe : totalLen ≠ 0) :
    RecordSafe input buf totalLen fields := by
  cases hWalk with
  | done => exact absurd h.total hNe
  | refused hValue hRefused =>
    apply h.recordSafe hValue
    intro hType hShort
    rw [Refused, if_pos hType] at hRefused
    omega
  | endpoint hShort hEnd =>
    have hValue : _ < 2 ^ 16 := Nat.lt_trans hShort (by decide)
    exact h.recordSafe hValue fun _ _ => hEnd
  | data hValue => exact h.recordSafe hValue fun hType => absurd hType (by decide)

/-- Wherever the walk comes to, complete records are left. -/
theorem stands_of_visits (hLen : input.length < 2 ^ 32) (hWalk : Walkable [] input)
    (hVisits : Visits input buf totalLen fields) :
    ∃ rest names, Stands input rest names buf totalLen fields ∧ Walkable names rest := by
  induction hVisits with
  | start => exact ⟨input, [], stands_start hLen, hWalk⟩
  | @endpoint buf totalLen fields r _ hNe hParse hType hShort ih =>
    obtain ⟨rest, names, h, hRest⟩ := ih
    cases hRest with
    | done => exact absurd h.total hNe
    | refused hValue hRefused =>
      rw [(h.parse hValue).1] at hParse
      cases hParse
      rw [Refused, if_pos hType] at hRefused
      exact absurd hShort (by dsimp only; omega)
    | endpoint hName hEnd hAfter =>
      obtain ⟨hHere, -, hTaken⟩ := h.parse (Nat.lt_trans hName (by decide))
      rw [hHere] at hParse
      cases hParse
      refine ⟨_, _, ?_, hAfter⟩
      unfold copyEpname
      dsimp only
      rw [hTaken]
      exact h.endpoint hName hEnd
    | data hValue =>
      rw [(h.parse hValue).1] at hParse
      cases hParse
      exact absurd hType (show tlvTypeData ≠ tlvTypeEpname by decide)
  | @data buf totalLen fields r _ hNe hParse hType ih =>
    obtain ⟨rest, names, h, hRest⟩ := ih
    cases hRest with
    | done => exact absurd h.total hNe
    | refused hValue hRefused =>
      rw [(h.parse hValue).1] at hParse
      cases hParse
      subst hType
      exact absurd rfl hRefused
    | endpoint hName =>
      rw [(h.parse (Nat.lt_trans hName (by decide))).1] at hParse
      cases hParse
      exact absurd hType (show tlvTypeEpname ≠ tlvTypeData by decide)
    | data hValue hAfter =>
      rw [(h.parse hValue).1] at hParse
      cases hParse
      exact ⟨_, _, h.data hValue, hAfter⟩

/-- The loop ends, with a refusal or with a name and data from the input. Each record takes at
least three bytes, so the length of the input is fuel enough. -/
theorem parseRecords_of_walkable (hWalk : Walkable names rest) {fuel : Nat}
    (h : Stands input rest names buf totalLen fields) (hFuel : rest.length < fuel) :
    (∃ e, e ≠ .outOfBounds ∧ parseRecords input fuel buf totalLen fields = .error e) ∨
    ∃ found, parseRecords input fuel buf totalLen fields = .ok found ∧
      cString found.epname <:+: input ∧
      ∀ ptr len, found.data = some (ptr, len) → ptr + len ≤ input.length := by
  induction hWalk generalizing buf totalLen fields fuel with
  | done =>
    obtain ⟨fuel, rfl⟩ := Nat.exists_eq_succ_of_ne_zero (Nat.ne_zero_of_lt hFuel)
    refine Or.inr ⟨fields, ?_, h.name_infix, h.data_inside⟩
    rw [parseRecords, if_pos (by rw [h.total]; rfl)]
  | @refused names type value after hValue hRefused =>
    obtain ⟨fuel, rfl⟩ := Nat.exists_eq_succ_of_ne_zero (Nat.ne_zero_of_lt hFuel)
    left
    rw [parseRecords, if_neg (by rw [h.total]; simp [record]), (h.parse hValue).1]
    dsimp only
    by_cases hType : type = tlvTypeEpname
    · rw [Refused, if_pos hType] at hRefused
      rw [if_pos hType, if_pos hRefused]
      exact ⟨_, by decide, rfl⟩
    · rw [Refused, if_neg hType] at hRefused
      rw [if_neg hType, if_neg hRefused]
      exact ⟨_, by decide, rfl⟩
  | @endpoint names value after hShort hEnd _ ih =>
    obtain ⟨fuel, rfl⟩ := Nat.exists_eq_succ_of_ne_zero (Nat.ne_zero_of_lt hFuel)
    obtain ⟨hParse, hInside, hTaken⟩ := h.parse (Nat.lt_trans hShort (by decide))
    rw [List.length_append, length_record] at hFuel
    rw [parseRecords, if_neg (by rw [h.total]; simp [record]), hParse]
    dsimp only
    rw [if_pos rfl, if_neg (by omega), if_neg (by omega), hTaken]
    exact ih (h.endpoint hShort hEnd) (by omega)
  | @data names value after hValue _ ih =>
    obtain ⟨fuel, rfl⟩ := Nat.exists_eq_succ_of_ne_zero (Nat.ne_zero_of_lt hFuel)
    rw [List.length_append, length_record] at hFuel
    rw [parseRecords, if_neg (by rw [h.total]; simp [record]), (h.parse hValue).1]
    dsimp only
    rw [if_neg (by decide), if_pos rfl]
    exact ih (h.data hValue) (by omega)

theorem outcomeSafe_of_walkable (hLen : input.length < 2 ^ 32) (hWalk : Walkable [] input) :
    OutcomeSafe input (rpcReqHandler input input.length) := by
  unfold rpcReqHandler
  rcases parseRecords_of_walkable hWalk (stands_start hLen) (Nat.lt_succ_self _) with
    ⟨e, hErr, hRun⟩ | ⟨found, hRun, hName, hInside⟩
  · rw [hRun]
    exact hErr
  · rw [hRun]
    simp only [bind, Except.bind]
    cases hData : found.data with
    | none => exact (by decide : ReqError.incomplete ≠ .outOfBounds)
    | some data =>
      obtain ⟨ptr, len⟩ := data
      have hFit := hInside ptr len hData
      dsimp only
      split
      · exact (by decide : ReqError.incomplete ≠ .outOfBounds)
      · rw [if_neg (by omega)]
        exact ⟨hName, (List.take_prefix _ _).isInfix.trans (List.drop_suffix _ _).isInfix⟩

/-! ## Safe inputs are walkable -/

/-- What is left at a state of a safe walk is walkable. The induction is on its length. -/
theorem walkable_of_safe (hSafe : ReqSafe input)
    (hVisits : Visits input buf totalLen fields)
    (h : Stands input rest names buf totalLen fields) : Walkable names rest := by
  induction hn : rest.length using Nat.strongRecOn generalizing rest names buf totalLen fields with
  | ind n ih =>
    by_cases hNe : totalLen = 0
    · have hNil : rest = [] := List.eq_nil_of_length_eq_zero (by rw [← h.total, hNe])
      rw [hNil]
      exact .done
    · obtain ⟨r, hParse, hFit, hName⟩ := hSafe.records buf totalLen fields hVisits hNe
      obtain ⟨before, hInput, hBuf⟩ := h.split
      have hRecord : parseTlv (before ++ rest) before.length rest.length = some r := by
        rw [← hInput, ← hBuf, ← h.total, hParse]
      obtain ⟨type, value, after, rfl, hValue⟩ := record_of_parseTlv hRecord (h.total ▸ hFit)
      obtain ⟨hHere, hInside, hTaken⟩ := h.parse hValue
      rw [hHere] at hParse
      cases hParse
      rw [List.length_append, length_record] at hn
      by_cases hType : type = tlvTypeEpname
      · subst hType
        by_cases hShort : value.length < epnameMax - 1
        · have hEnd := (hName rfl hShort).2
          unfold copyEpname at hEnd
          dsimp only at hEnd
          rw [hTaken, h.overlaid.cString_iff hShort] at hEnd
          have hNext := Visits.endpoint hVisits hNe hHere rfl hShort
          unfold copyEpname at hNext
          dsimp only at hNext
          rw [hTaken] at hNext
          exact .endpoint hShort hEnd (ih _ (by omega) hNext (h.endpoint hShort hEnd) rfl)
        · apply Walkable.refused hValue
          rw [Refused, if_pos rfl]
          omega
      · by_cases hData : type = tlvTypeData
        · subst hData
          have hNext := Visits.data hVisits hNe hHere rfl
          exact .data hValue (ih _ (by omega) hNext (h.data hValue) rfl)
        · apply Walkable.refused hValue
          rw [Refused, if_neg hType]
          exact hData

/-- The handler does what it should exactly on the inputs of complete records in which a later
endpoint name is not mixed with an earlier one. -/
theorem reqSafe_iff (input : List UInt8) (hLen : input.length < 2 ^ 32) :
    ReqSafe input ↔ Walkable [] input := by
  constructor
  · intro hSafe
    exact walkable_of_safe hSafe .start (stands_start hLen)
  · intro hWalk
    refine ⟨?_, outcomeSafe_of_walkable hLen hWalk⟩
    intro buf totalLen fields hVisits hNe
    obtain ⟨rest, names, h, hRest⟩ := stands_of_visits hLen hWalk hVisits
    exact recordSafe_of_walkable h hRest hNe

/-- An endpoint name and a byte of data. -/
theorem reqSafe_request : ReqSafe [1, 1, 0, 65, 2, 1, 0, 7] := by
  have hData : Walkable [[65]] (record tlvTypeData [7] ++ []) := .data (by decide) .done
  have hName : Walkable [] (record tlvTypeEpname [65] ++ (record tlvTypeData [7] ++ [])) :=
    .endpoint (by decide) (Or.inr rfl) hData
  exact (reqSafe_iff _ (by decide)).mpr hName

/-- A data record of one byte without the byte: four bytes are subtracted from three. -/
theorem not_reqSafe : ¬∀ input : List UInt8, input.length < 2 ^ 32 → ReqSafe input := by
  intro h
  have hStart : Visits [2, 1, 0] 0 3 ⟨List.replicate epnameMax 0, none⟩ := .start
  obtain ⟨r, hParse, hFit, -⟩ := (h [2, 1, 0] (by decide)).records _ _ _ hStart (by decide)
  cases hParse
  exact absurd hFit (by decide)

end EspHosted.Serial
