import EspHosted.Serial.HostTx
import Mathlib.Tactic.IntervalCases

/-!
# Lengths on the way to the serial driver

`process_rpc_tx_msg` packs a request and gives it to `h_serial_if_send` with its 32-bit size. The
parameter has 16 bits, and so have the size of the TLV buffer and the count of the bytes written
to it.

* `hSerialIfSend_eq`: what becomes of the buffer afterwards is `serial_ll_write`.
* `sentWhole_iff`: a request is handed on whole or refused exactly when nothing is cut off.
-/

namespace EspHosted.Serial

open Bytes

/-- What `h_serial_if_send` does up to `h_control_serial_drv_write`: it returns an error, writes
behind the end of its buffer, or hands the buffer on with a length. -/
inductive Handed
  | refused
  | outOfBounds
  | handed (writeBuf : List UInt8) (count : Nat)
  deriving DecidableEq

/-- `h_serial_if_send` up to `h_control_serial_drv_write`. `isOpen` says that `g_serial_handle`
is not `NULL`, and `len` is its 16-bit parameter. -/
def hSerialIfSendHanded (isOpen callocOk : Bool) (data : List UInt8) (len : Nat) : Handed :=
  if len = 0 ∨ isOpen = false then .refused
  else
    let bufLen := (3 + rpcEpNameRsp.length + 3 + len) % 2 ^ 16
    if !callocOk then .refused
    else
      match serialComposeTlv (List.replicate bufLen 0) data len with
      | none => .outOfBounds
      | some w => if w.count = 0 then .refused else .handed w.mem w.count

/-- The call in `process_rpc_tx_msg`, which narrows the length. -/
def processRpcTxMsgHanded (isOpen callocOk : Bool) (txData : List UInt8) : Handed :=
  hSerialIfSendHanded isOpen callocOk txData (txData.length % 2 ^ 16)

/-- The request is refused, or handed on whole in a buffer of just its size. -/
def SentWhole (txData : List UInt8) : Handed → Prop
  | .refused => True
  | .outOfBounds => False
  | .handed writeBuf count =>
    writeBuf = tlv rpcEpNameRsp txData ∧ writeBuf.length = 12 + txData.length ∧
      count = 12 + txData.length

instance (txData : List UInt8) : (h : Handed) → Decidable (SentWhole txData h)
  | .refused => .isTrue trivial
  | .outOfBounds => .isFalse id
  | .handed _ _ => inferInstanceAs (Decidable (_ ∧ _))

/-- On an open interface the buffer goes to `serial_ll_write`. -/
theorem hSerialIfSend_eq (t : Transport) (env : SendEnv) (data : List UInt8) (len : Nat) :
    hSerialIfSend t env data len =
      match hSerialIfSendHanded true env.callocOk data len with
      | .refused => some ([], false)
      | .outOfBounds => none
      | .handed writeBuf count => some (serialLlWrite t env.transmit writeBuf count) := by
  unfold hSerialIfSend hSerialIfSendHanded
  by_cases hLen : len = 0
  · rw [if_pos hLen, if_pos (Or.inl hLen)]
  · rw [if_neg hLen, if_neg (show ¬(len = 0 ∨ true = false) by simp [hLen])]
    dsimp only
    cases env.callocOk with
    | false => rfl
    | true =>
      simp only [Bool.not_true, Bool.false_eq_true, if_false]
      cases serialComposeTlv (List.replicate ((3 + rpcEpNameRsp.length + 3 + len) % 2 ^ 16) 0)
        data len with
      | none => rfl
      | some w =>
        rw [Option.map_some]
        dsimp only
        split <;> rfl

/-! ## What is composed -/

/-- Only the first `dataLength` bytes are read. -/
theorem serialComposeTlv_take (buf data : List UInt8) (dataLength : Nat) :
    serialComposeTlv buf data dataLength =
      serialComposeTlv buf (data.take dataLength) dataLength := by
  unfold serialComposeTlv
  rw [List.take_take, Nat.min_self]

/-- A message that leaves room for the headers in 16 bits is composed as it is. -/
theorem hSerialIfSendHanded_fits {data : List UInt8} {len : Nat} (hPos : 0 < len)
    (hLe : len ≤ data.length) (hLen : len < 65524) :
    hSerialIfSendHanded true true data len =
      .handed (tlv rpcEpNameRsp (data.take len)) (12 + len) := by
  have hEp : rpcEpNameRsp.length = 6 := rfl
  have hBuf : (3 + rpcEpNameRsp.length + 3 + len) % 2 ^ 16 = 12 + len := by omega
  have hTake : (data.take len).length = len := List.length_take_of_le hLe
  have hRoom : (data.take len).length + 12 < 2 ^ 16 := by omega
  have hTlv := serialComposeTlv_eq hRoom
  rw [hTake] at hTlv
  unfold hSerialIfSendHanded
  rw [if_neg (by simp; omega)]
  simp only [hBuf, Bool.not_true, Bool.false_eq_true, if_false]
  rw [serialComposeTlv_take, hTlv]
  dsimp only
  rw [if_neg (by omega)]

/-- A buffer without room for the headers is overrun. -/
theorem serialComposeTlv_small {room : Nat} (hRoom : room < 12) (data : List UInt8)
    (dataLength : Nat) : serialComposeTlv (List.replicate room 0) data dataLength = none := by
  interval_cases room <;> rfl

/-- A message that leaves no room for the headers wraps the size of the buffer. -/
theorem hSerialIfSendHanded_wraps {data : List UInt8} {len : Nat} (hLen : 65524 ≤ len)
    (hLt : len < 65536) : hSerialIfSendHanded true true data len = .outOfBounds := by
  have hEp : rpcEpNameRsp.length = 6 := rfl
  unfold hSerialIfSendHanded
  rw [if_neg (by simp; omega)]
  simp only [Bool.not_true, Bool.false_eq_true, if_false]
  rw [serialComposeTlv_small (by omega)]

/-! ## Which lengths are handed on whole -/

/-- A request is handed on whole or refused exactly when the interface is closed, there is no
memory for the buffer, the message with its headers is shorter than 2^16, or nothing at all is
left of its length in 16 bits. -/
theorem sentWhole_iff (isOpen callocOk : Bool) (txData : List UInt8) :
    SentWhole txData (processRpcTxMsgHanded isOpen callocOk txData) ↔
      isOpen = false ∨ callocOk = false ∨ txData.length < 65524 ∨ txData.length % 65536 = 0 := by
  have hEp : rpcEpNameRsp.length = 6 := rfl
  unfold processRpcTxMsgHanded
  by_cases hZero : txData.length % 65536 = 0
  · have hRefused : hSerialIfSendHanded isOpen callocOk txData (txData.length % 2 ^ 16) =
        .refused := if_pos (Or.inl (by omega))
    rw [hRefused]
    exact iff_of_true trivial (by simp [hZero])
  · cases isOpen with
    | false =>
      have hRefused : hSerialIfSendHanded false callocOk txData (txData.length % 2 ^ 16) =
          .refused := if_pos (Or.inr rfl)
      rw [hRefused]
      exact iff_of_true trivial (Or.inl rfl)
    | true =>
      cases callocOk with
      | false =>
        have hRefused : hSerialIfSendHanded true false txData (txData.length % 2 ^ 16) =
            .refused := by
          unfold hSerialIfSendHanded
          rw [if_neg (by simp; omega)]
          rfl
        rw [hRefused]
        exact iff_of_true trivial (Or.inr (Or.inl rfl))
      | true =>
        by_cases hFits : txData.length % 2 ^ 16 < 65524
        · rw [hSerialIfSendHanded_fits (by omega) (by omega) hFits]
          simp only [SentWhole, reduceCtorEq, false_or, hZero, or_false]
          constructor
          · rintro ⟨-, -, hCount⟩
            omega
          · intro hShort
            have hMod : txData.length % 2 ^ 16 = txData.length := Nat.mod_eq_of_lt (by omega)
            rw [hMod, List.take_length, length_tlv, hEp]
            exact ⟨rfl, by omega, rfl⟩
        · rw [hSerialIfSendHanded_wraps (by omega) (by omega)]
          refine iff_of_false id ?_
          simp only [reduceCtorEq, false_or, hZero, or_false]
          omega

/-- 65537 zero bytes are sent as one. -/
theorem not_sentWhole :
    ¬∀ isOpen callocOk txData, SentWhole txData (processRpcTxMsgHanded isOpen callocOk txData) := by
  intro h
  obtain ⟨txData, hLen⟩ : ∃ txData : List UInt8, txData.length = 65537 :=
    ⟨List.replicate 65537 0, List.length_replicate⟩
  have hCut := h true true txData
  have hHanded : processRpcTxMsgHanded true true txData =
      .handed (tlv rpcEpNameRsp (txData.take (txData.length % 2 ^ 16)))
        (12 + txData.length % 2 ^ 16) := by
    unfold processRpcTxMsgHanded
    exact hSerialIfSendHanded_fits (by omega) (by omega) (by omega)
  rw [hHanded] at hCut
  obtain ⟨-, -, hCount⟩ := hCut
  omega

end EspHosted.Serial
