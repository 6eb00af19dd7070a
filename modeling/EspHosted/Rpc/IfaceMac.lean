import EspHosted.Lib.Reads
import Mathlib.Data.List.Basic

/-!
# The MAC address of an interface

`rpc_iface_mac_addr_set_get` copies `mac_len` bytes into its request for a set, and `mac_len` bytes
out of the response for a get. The co-processor compares the length of a set with the one of the
type, and answers a get with as many bytes as the type has. An answer whose payload could not be
allocated has none, which the host takes for a success.

* `set_meets_iff`, `get_meets_iff`: when a set and a get meet their contract;
* `iface_mac_iff`: both, for every type, length, answer and buffer.
-/

namespace EspHosted.Rpc.IfaceMac

open Reads

/-! ## Memory -/

/-- The first `n` bytes. -/
def bytesOf (m : Memory) (n : Nat) : List UInt8 := (List.range n).map m

/-- `memcpy` to the start of a buffer. -/
def memcpy (m : Memory) (bytes : List UInt8) : Memory := fun i =>
  if h : i < bytes.length then bytes[i] else m i

def zeros : Memory := fun _ => 0

@[simp] theorem bytesOf_length (m : Memory) (n : Nat) : (bytesOf m n).length = n := by
  simp [bytesOf]

theorem bytesOf_congr {m m' : Memory} {n : Nat} (h : Agree n m m') :
    bytesOf m n = bytesOf m' n := by
  refine List.map_congr_left fun i hi => ?_
  exact h i (List.mem_range.mp hi)

theorem memcpy_of_outside (m : Memory) {bytes : List UInt8} {i : Nat} (h : bytes.length ≤ i) :
    memcpy m bytes i = m i := dif_neg (by omega)

theorem bytesOf_memcpy (m : Memory) {bytes : List UInt8} {n : Nat} (h : bytes.length = n) :
    bytesOf (memcpy m bytes) n = bytes := by
  refine List.ext_getElem (by simp [h]) fun i _ hi => ?_
  simp [bytesOf, memcpy, hi]

/-! ## Model -/

def ifaceMacSize : Nat := 8

def hOk : Int := 0
def hErrInvalidArg : Int := -2
def failure : Int := -1
def espErrInvalidArg : Int := 0x102

/-- A code that is not a success. -/
abbrev ErrCode := { code : Int // code ≠ hOk }

/-- The functions of ESP-IDF on the co-processor. `esp_read_mac` gives as many bytes as the type
has, which is at most eight. -/
structure Idf where
  macAddrLenGet : Nat → Nat
  readMac : Nat → Except ErrCode (List UInt8)
  ifaceMacAddrSet : List UInt8 → Nat → Option ErrCode
  macAddrLenGet_le : ∀ type, macAddrLenGet type ≤ ifaceMacSize
  readMac_length : ∀ type mac, readMac type = .ok mac → mac.length = macAddrLenGet type

/-- Which allocations of the co-processor succeed: the payload of the answer, and its bytes. -/
structure Heap where
  payload : Bool
  macBytes : Bool

structure Req where
  set : Bool
  type : Nat
  mac : List UInt8

structure Resp where
  resp : Int
  mac : List UInt8

inductive SlaveCall
  | ifaceMacAddrSet (mac : List UInt8) (type : Nat)
  | readMac (type : Nat) (mac : Except ErrCode (List UInt8))

/-- What the co-processor calls and answers. -/
structure Handled where
  calls : List SlaveCall
  payload : Option Resp

/-- `RPC_RESP_COPY_BYTES_SRC_UNCHECKED`. -/
def respCopyBytes (heap : Heap) (src : Memory) (num : Nat) : Resp :=
  if num = 0 then ⟨hOk, []⟩
  else if heap.macBytes then ⟨hOk, bytesOf src num⟩ else ⟨failure, []⟩

def reqIfaceMacAddrSetGet (idf : Idf) (heap : Heap) (req : Req) : Handled :=
  if heap.payload = false then ⟨[], none⟩
  else
    let len := idf.macAddrLenGet req.type
    if req.set then
      if req.mac.length = 0 then ⟨[], some ⟨espErrInvalidArg, []⟩⟩
      else if req.mac.length = len then
        match idf.ifaceMacAddrSet req.mac req.type with
        | some e => ⟨[.ifaceMacAddrSet req.mac req.type], some ⟨e, []⟩⟩
        | none => ⟨[.ifaceMacAddrSet req.mac req.type],
            some (respCopyBytes heap (load req.mac zeros) len)⟩
      else ⟨[], some ⟨espErrInvalidArg, []⟩⟩
    else
      match idf.readMac req.type with
      | .error e => ⟨[.readMac req.type (.error e)], some ⟨e, []⟩⟩
      | .ok mac => ⟨[.readMac req.type (.ok mac)],
          some (respCopyBytes heap (memcpy zeros mac) len)⟩

/-- An access behind one of the arrays of the host. What happens after it is not said. -/
inductive Fault
  | requestWrite (len : Nat)
  | responseWrite (len : Nat)
  | responseRead (len : Nat)
  deriving DecidableEq

/-- `rpc_iface_mac_t` -/
structure CtrlCmd where
  set : Bool
  type : Nat
  macLen : Nat
  mac : Memory

/-- `RPC_REQ_COPY_BYTES` only for a set. -/
def composeRpcReq (req : CtrlCmd) : Req :=
  ⟨req.set, req.type, if req.set then bytesOf req.mac req.macLen else []⟩

/-- `resp_event_status` and the MAC field. -/
structure AppResp where
  status : Int
  mac : Memory

/-- The response was allocated with zeros, and is not changed if there is no payload. -/
def rpcParseRsp : Option Resp → Except Fault AppResp
  | none => .ok ⟨hOk, zeros⟩
  | some payload =>
    if payload.resp ≠ hOk then .ok ⟨payload.resp, zeros⟩
    else if ifaceMacSize < payload.mac.length then .error (.responseWrite payload.mac.length)
    else .ok ⟨hOk, memcpy zeros payload.mac⟩

/-- The answer arrives, or the RPC core reports a failure for a request that may have reached the
co-processor. -/
inductive Delivery
  | answered
  | lost (status : ErrCode) (reached : Bool)

structure Outcome where
  ret : Int
  mac : Option Memory
  calls : List SlaveCall

/-- The copy out of the response, and `rpc_rsp_callback`. -/
def copyMacForGet (set : Bool) (mac : Memory) (macLen : Nat) (calls : List SlaveCall)
    (resp : AppResp) : Except Fault Outcome :=
  if set = false ∧ resp.status = hOk then
    if ifaceMacSize < macLen then .error (.responseRead macLen)
    else .ok ⟨resp.status, some (memcpy mac (bytesOf resp.mac macLen)), calls⟩
  else .ok ⟨resp.status, some mac, calls⟩

def rpcIfaceMacAddrSetGet (idf : Idf) (heap : Heap) (delivery : Delivery) (set : Bool)
    (mac : Option Memory) (macLen type : Nat) : Except Fault Outcome :=
  match mac with
  | none => .ok ⟨hErrInvalidArg, none, []⟩
  | some mac =>
    if set = true ∧ ifaceMacSize < macLen then .error (.requestWrite macLen)
    else
      let req : CtrlCmd :=
        ⟨set, type, macLen, if set then memcpy zeros (bytesOf mac macLen) else zeros⟩
      let handled := reqIfaceMacAddrSetGet idf heap (composeRpcReq req)
      match delivery with
      | .lost status reached =>
        .ok ⟨status, some mac, if reached then handled.calls else []⟩
      | .answered => rpcParseRsp handled.payload >>= copyMacForGet set mac macLen handled.calls

/-! ## The contract -/

/-- Only the caller's `mac_len` bytes are written, a set that succeeds passed them on, and a get
that succeeds yields what was read on the co-processor. -/
structure Good (set : Bool) (mac : Option Memory) (macLen type : Nat) (o : Outcome) : Prop where
  frame : ∀ i, macLen ≤ i → o.mac.map (fun m => m i) = mac.map fun m => m i
  passed : set = true → o.ret = hOk →
    ∃ m, mac = some m ∧ o.calls = [.ifaceMacAddrSet (bytesOf m macLen) type]
  read : set = false → o.ret = hOk →
    ∃ m, o.mac = some m ∧ o.calls = [.readMac type (.ok (bytesOf m macLen))]

/-- What a caller sees of an outcome besides its buffer. -/
def Outcome.seen (o : Outcome) : Int × List SlaveCall := (o.ret, o.calls)

structure Meets (idf : Idf) (heap : Heap) (delivery : Delivery) (set : Bool)
    (mac : Option Memory) (macLen type : Nat) : Prop where
  /-- No access goes behind an array. -/
  done : ∃ o, rpcIfaceMacAddrSetGet idf heap delivery set mac macLen type = .ok o ∧
    Good set mac macLen type o
  /-- No byte of the caller behind `mac_len` matters. -/
  reads : ∀ m m', mac = some m → Agree macLen m m' →
    (rpcIfaceMacAddrSetGet idf heap delivery set (some m') macLen type).map Outcome.seen =
      (rpcIfaceMacAddrSetGet idf heap delivery set (some m) macLen type).map Outcome.seen

/-- A set fits into the array of the request. A get is for as many bytes as the type has, unless
the co-processor reports a failure. An answer has a payload. -/
def Fits (idf : Idf) (heap : Heap) (delivery : Delivery) (set : Bool) (macLen type : Nat) :
    Prop :=
  match set, delivery with
  | true, .lost _ _ => macLen ≤ ifaceMacSize
  | true, .answered => macLen ≤ ifaceMacSize ∧ heap.payload = true
  | false, .lost _ _ => True
  | false, .answered => heap.payload = true ∧ ∀ bytes, idf.readMac type = .ok bytes →
      macLen = idf.macAddrLenGet type ∨
        (idf.macAddrLenGet type ≠ 0 ∧ heap.macBytes = false)

variable {idf : Idf} {heap : Heap} {macLen type : Nat}

/-! ## The co-processor -/

theorem handled_no_payload (idf : Idf) {heap : Heap} (hHeap : heap.payload = false) (req : Req) :
    reqIfaceMacAddrSetGet idf heap req = ⟨[], none⟩ := by
  simp only [reqIfaceMacAddrSetGet, hHeap, if_true]

/-- A set that is not refused passed its bytes to `esp_iface_mac_addr_set`, and the answer is no
longer than the array of the host. -/
theorem set_handled (idf : Idf) (type : Nat) (hHeap : heap.payload = true) (mac : List UInt8) :
    ∃ resp, (reqIfaceMacAddrSetGet idf heap ⟨true, type, mac⟩).payload = some resp ∧
      resp.mac.length ≤ ifaceMacSize ∧
      (resp.resp = hOk → (reqIfaceMacAddrSetGet idf heap ⟨true, type, mac⟩).calls =
        [.ifaceMacAddrSet mac type]) := by
  have hInvalid : espErrInvalidArg ≠ hOk := by decide
  unfold reqIfaceMacAddrSetGet
  simp only [hHeap, Bool.true_eq_false, if_false, if_true]
  split
  · exact ⟨_, rfl, Nat.zero_le _, fun hResp => absurd hResp hInvalid⟩
  · split
    · rename_i hLen
      split
      · rename_i e _
        exact ⟨_, rfl, Nat.zero_le _, fun hResp => absurd hResp e.2⟩
      · refine ⟨_, rfl, ?_, fun _ => rfl⟩
        have hLe := idf.macAddrLenGet_le type
        unfold respCopyBytes
        split
        · exact Nat.zero_le _
        · split
          · rwa [bytesOf_length]
          · exact Nat.zero_le _
    · exact ⟨_, rfl, Nat.zero_le _, fun hResp => absurd hResp hInvalid⟩

theorem get_handled_error (hHeap : heap.payload = true) {e : ErrCode}
    (hRead : idf.readMac type = .error e) :
    reqIfaceMacAddrSetGet idf heap ⟨false, type, []⟩ =
      ⟨[.readMac type (.error e)], some ⟨e, []⟩⟩ := by
  simp only [reqIfaceMacAddrSetGet, hHeap, hRead, Bool.true_eq_false, Bool.false_eq_true,
    if_false]

theorem get_handled_ok (hHeap : heap.payload = true) {mac : List UInt8}
    (hRead : idf.readMac type = .ok mac) :
    reqIfaceMacAddrSetGet idf heap ⟨false, type, []⟩ = ⟨[.readMac type (.ok mac)],
      some (if mac = [] then ⟨hOk, []⟩
        else if heap.macBytes then ⟨hOk, mac⟩ else ⟨failure, []⟩)⟩ := by
  have hLen := idf.readMac_length type mac hRead
  simp only [reqIfaceMacAddrSetGet, hHeap, hRead, Bool.true_eq_false, Bool.false_eq_true,
    if_false, respCopyBytes, ← hLen, List.length_eq_zero_iff, bytesOf_memcpy zeros rfl]

/-! ## The host -/

/-- What the host sees of the caller's buffer. -/
theorem composed_bytes (m : Memory) : composeRpcReq ⟨true, type, macLen,
    memcpy zeros (bytesOf m macLen)⟩ = ⟨true, type, bytesOf m macLen⟩ := by
  simp only [composeRpcReq, if_true, bytesOf_memcpy zeros (bytesOf_length m macLen)]

theorem rpcParseRsp_of_ok {mac : List UInt8} (hLen : mac.length ≤ ifaceMacSize) :
    rpcParseRsp (some ⟨hOk, mac⟩) = .ok ⟨hOk, memcpy zeros mac⟩ := by
  simp only [rpcParseRsp, ne_eq, not_true_eq_false, if_false, Nat.not_lt.mpr hLen]

theorem rpcParseRsp_of_fail {resp : Int} (hFail : resp ≠ hOk) (mac : List UInt8) :
    rpcParseRsp (some ⟨resp, mac⟩) = .ok ⟨resp, zeros⟩ := by
  simp only [rpcParseRsp, ne_eq, hFail, not_false_eq_true, if_true]

theorem copyMacForGet_of_set (macLen : Nat) (m : Memory) (calls : List SlaveCall) (resp : AppResp) :
    copyMacForGet true m macLen calls resp = .ok ⟨resp.status, some m, calls⟩ := by
  simp only [copyMacForGet, Bool.true_eq_false, false_and, if_false]

theorem copyMacForGet_of_fail (m : Memory) (calls : List SlaveCall) {resp : AppResp}
    (hFail : resp.status ≠ hOk) :
    copyMacForGet false m macLen calls resp = .ok ⟨resp.status, some m, calls⟩ := by
  simp only [copyMacForGet, hFail, and_false, if_false]

theorem copyMacForGet_of_ok (m mac : Memory) (calls : List SlaveCall) :
    copyMacForGet false m macLen calls ⟨hOk, mac⟩ =
      if ifaceMacSize < macLen then .error (.responseRead macLen)
      else .ok ⟨hOk, some (memcpy m (bytesOf mac macLen)), calls⟩ := by
  simp only [copyMacForGet, and_self, if_true]

/-- The copy does not read the caller's buffer. -/
theorem copyMacForGet_seen (set : Bool) (m m' : Memory) (calls : List SlaveCall)
    (resp : AppResp) : (copyMacForGet set m' macLen calls resp).map Outcome.seen =
      (copyMacForGet set m macLen calls resp).map Outcome.seen := by
  unfold copyMacForGet
  split
  · split <;> rfl
  · rfl

theorem reads_congr (delivery : Delivery) (set : Bool) {m m' : Memory}
    (hAgree : Agree macLen m m') :
    (rpcIfaceMacAddrSetGet idf heap delivery set (some m') macLen type).map Outcome.seen =
      (rpcIfaceMacAddrSetGet idf heap delivery set (some m) macLen type).map Outcome.seen := by
  simp only [rpcIfaceMacAddrSetGet, ← bytesOf_congr hAgree]
  split
  · rfl
  · cases delivery with
    | lost status reached => rfl
    | answered =>
      generalize reqIfaceMacAddrSetGet idf heap _ = handled
      cases rpcParseRsp handled.payload with
      | error f => rfl
      | ok resp => exact copyMacForGet_seen set m m' handled.calls resp

/-- A run without a fault decides the contract. -/
theorem meets_iff_of_ok {delivery : Delivery} {set : Bool} {m : Memory} {o : Outcome}
    (hRun : rpcIfaceMacAddrSetGet idf heap delivery set (some m) macLen type = .ok o) :
    Meets idf heap delivery set (some m) macLen type ↔ Good set (some m) macLen type o := by
  constructor
  · rintro ⟨⟨o', hRun', hGood⟩, -⟩
    cases hRun.symm.trans hRun'
    exact hGood
  · intro hGood
    refine ⟨⟨o, hRun, hGood⟩, fun m₁ m' hSome hAgree => ?_⟩
    cases hSome
    exact reads_congr delivery set hAgree

theorem not_meets_of_error {delivery : Delivery} {set : Bool} {mac : Option Memory} {f : Fault}
    (hRun : rpcIfaceMacAddrSetGet idf heap delivery set mac macLen type = .error f) :
    ¬ Meets idf heap delivery set mac macLen type := by
  rintro ⟨⟨o, hRun', -⟩, -⟩
  cases hRun.symm.trans hRun'

/-- A failure leaves the buffer and says so. -/
theorem good_of_fail {set : Bool} {m : Memory} {ret : Int} (hFail : ret ≠ hOk)
    (calls : List SlaveCall) : Good set (some m) macLen type ⟨ret, some m, calls⟩ :=
  ⟨fun _ _ => rfl, fun _ hRet => absurd hRet hFail, fun _ hRet => absurd hRet hFail⟩

/-! ## The wrapper -/

theorem lost_meets {set : Bool} {m : Memory} (status : ErrCode) (reached : Bool)
    (hRoom : ¬ (set = true ∧ ifaceMacSize < macLen)) :
    Meets idf heap (.lost status reached) set (some m) macLen type := by
  have hRun : ∃ calls, rpcIfaceMacAddrSetGet idf heap (.lost status reached) set (some m) macLen
      type = .ok ⟨status, some m, calls⟩ := by
    simp only [rpcIfaceMacAddrSetGet, if_neg hRoom]
    exact ⟨_, rfl⟩
  obtain ⟨calls, hRun⟩ := hRun
  exact (meets_iff_of_ok hRun).mpr (good_of_fail status.2 calls)

section Set

variable {m : Memory}

theorem set_run (hRoom : macLen ≤ ifaceMacSize) :
    rpcIfaceMacAddrSetGet idf heap .answered true (some m) macLen type =
      (let handled := reqIfaceMacAddrSetGet idf heap ⟨true, type, bytesOf m macLen⟩
      rpcParseRsp handled.payload >>= copyMacForGet true m macLen handled.calls) := by
  simp only [rpcIfaceMacAddrSetGet, true_and, Nat.not_lt.mpr hRoom, if_false, if_true,
    composed_bytes]

/-- An answer without a payload passes for a success. -/
theorem set_no_payload (hRoom : macLen ≤ ifaceMacSize) (hHeap : heap.payload = false) :
    ¬ Meets idf heap .answered true (some m) macLen type := by
  have hRun : rpcIfaceMacAddrSetGet idf heap .answered true (some m) macLen type =
      .ok ⟨hOk, some m, []⟩ := by
    simp only [set_run hRoom, handled_no_payload idf hHeap]
    exact copyMacForGet_of_set macLen m [] _
  rw [meets_iff_of_ok hRun]
  intro hGood
  obtain ⟨m', -, hCalls⟩ := hGood.passed rfl rfl
  cases hCalls

theorem set_payload (hRoom : macLen ≤ ifaceMacSize) (hHeap : heap.payload = true) :
    Meets idf heap .answered true (some m) macLen type := by
  obtain ⟨⟨resp, mac⟩, hPayload, hLen, hCalls⟩ :=
    set_handled idf type hHeap (bytesOf m macLen)
  by_cases hResp : resp = hOk
  · have hRun : rpcIfaceMacAddrSetGet idf heap .answered true (some m) macLen type =
        .ok ⟨hOk, some m, [.ifaceMacAddrSet (bytesOf m macLen) type]⟩ := by
      simp only [set_run hRoom, hPayload, hResp, rpcParseRsp_of_ok hLen, hCalls hResp]
      exact copyMacForGet_of_set macLen m _ _
    rw [meets_iff_of_ok hRun]
    exact ⟨fun _ _ => rfl, fun _ _ => ⟨m, rfl, rfl⟩, fun hSet _ => Bool.noConfusion hSet⟩
  · have hRun : rpcIfaceMacAddrSetGet idf heap .answered true (some m) macLen type =
        .ok ⟨resp, some m,
          (reqIfaceMacAddrSetGet idf heap ⟨true, type, bytesOf m macLen⟩).calls⟩ := by
      simp only [set_run hRoom, hPayload, rpcParseRsp_of_fail hResp]
      exact copyMacForGet_of_set macLen m _ _
    rw [meets_iff_of_ok hRun]
    exact good_of_fail hResp _

theorem set_meets_iff (delivery : Delivery) :
    Meets idf heap delivery true (some m) macLen type ↔
      Fits idf heap delivery true macLen type := by
  by_cases hRoom : macLen ≤ ifaceMacSize
  · cases delivery with
    | lost status reached =>
      refine iff_of_true ?_ hRoom
      exact lost_meets status reached fun hBoth => Nat.not_lt.mpr hRoom hBoth.2
    | answered =>
      cases hHeap : heap.payload with
      | false =>
        refine iff_of_false (set_no_payload hRoom hHeap) fun hFits => ?_
        exact Bool.false_ne_true (hHeap.symm.trans hFits.2)
      | true => exact iff_of_true (set_payload hRoom hHeap) ⟨hRoom, hHeap⟩
  · have hRun : rpcIfaceMacAddrSetGet idf heap delivery true (some m) macLen type =
        .error (.requestWrite macLen) := by
      simp only [rpcIfaceMacAddrSetGet, true_and, Nat.not_le.mp hRoom, if_true]
    refine iff_of_false (not_meets_of_error hRun) fun hFits => hRoom ?_
    cases delivery with
    | lost _ _ => exact hFits
    | answered => exact hFits.1

end Set

section Get

variable {m : Memory} {bytes : List UInt8}

theorem get_run : rpcIfaceMacAddrSetGet idf heap .answered false (some m) macLen type =
    (let handled := reqIfaceMacAddrSetGet idf heap ⟨false, type, []⟩
    rpcParseRsp handled.payload >>= copyMacForGet false m macLen handled.calls) := by
  simp only [rpcIfaceMacAddrSetGet, composeRpcReq, Bool.false_eq_true, false_and, if_false]

/-- Zeros are copied, and nothing was read. -/
theorem get_no_payload (hHeap : heap.payload = false) :
    ¬ Meets idf heap .answered false (some m) macLen type := by
  have hRun : rpcIfaceMacAddrSetGet idf heap .answered false (some m) macLen type =
      copyMacForGet false m macLen [] ⟨hOk, zeros⟩ := by
    simp only [get_run, handled_no_payload idf hHeap]
    rfl
  rw [copyMacForGet_of_ok] at hRun
  split at hRun
  · exact not_meets_of_error hRun
  · rw [meets_iff_of_ok hRun]
    intro hGood
    obtain ⟨m', -, hCalls⟩ := hGood.read rfl rfl
    cases hCalls

theorem get_fail {resp : Int} (hFail : resp ≠ hOk) {calls : List SlaveCall}
    {mac : List UInt8}
    (hHandled : reqIfaceMacAddrSetGet idf heap ⟨false, type, []⟩ = ⟨calls, some ⟨resp, mac⟩⟩) :
    Meets idf heap .answered false (some m) macLen type := by
  have hRun : rpcIfaceMacAddrSetGet idf heap .answered false (some m) macLen type =
      .ok ⟨resp, some m, calls⟩ := by
    simp only [get_run, hHandled, rpcParseRsp_of_fail hFail]
    exact copyMacForGet_of_fail m calls hFail
  exact (meets_iff_of_ok hRun).mpr (good_of_fail hFail calls)

/-- The bytes of the caller are the ones that were read exactly if it asked for as many. -/
theorem get_success (hLen : bytes.length ≤ ifaceMacSize)
    (hHandled : reqIfaceMacAddrSetGet idf heap ⟨false, type, []⟩ =
      ⟨[.readMac type (.ok bytes)], some ⟨hOk, bytes⟩⟩) :
    Meets idf heap .answered false (some m) macLen type ↔ macLen = bytes.length := by
  have hRun : rpcIfaceMacAddrSetGet idf heap .answered false (some m) macLen type =
      copyMacForGet false m macLen [.readMac type (.ok bytes)] ⟨hOk, memcpy zeros bytes⟩ := by
    simp only [get_run, hHandled, rpcParseRsp_of_ok hLen]
    rfl
  rw [copyMacForGet_of_ok] at hRun
  split at hRun
  · exact iff_of_false (not_meets_of_error hRun) (by omega)
  · rw [meets_iff_of_ok hRun]
    constructor
    · intro hGood
      obtain ⟨m', -, hCalls⟩ := hGood.read rfl rfl
      injection hCalls with hCall
      injection hCall with _ hRead
      injection hRead with hBytes
      rw [hBytes, bytesOf_length]
    · intro hEq
      refine ⟨fun i hi => ?_, fun hSet _ => (Bool.false_ne_true hSet).elim,
        fun _ _ => ⟨_, rfl, ?_⟩⟩
      · simp only [Option.map_some]
        rw [memcpy_of_outside m (by rwa [bytesOf_length])]
      · rw [bytesOf_memcpy m (bytesOf_length _ _), bytesOf_memcpy zeros hEq.symm]

theorem get_meets_iff (delivery : Delivery) :
    Meets idf heap delivery false (some m) macLen type ↔
      Fits idf heap delivery false macLen type := by
  cases delivery with
  | lost status reached =>
    exact iff_of_true (lost_meets status reached fun hBoth => by cases hBoth.1) trivial
  | answered =>
    cases hHeap : heap.payload with
    | false =>
      refine iff_of_false (get_no_payload hHeap) fun hFits => ?_
      exact Bool.false_ne_true (hHeap.symm.trans hFits.1)
    | true =>
      cases hRead : idf.readMac type with
      | error e =>
        refine iff_of_true (get_fail e.2 (get_handled_error hHeap hRead)) ⟨hHeap, ?_⟩
        intro bytes hBytes
        cases hRead.symm.trans hBytes
      | ok bytes =>
        have hLen := idf.readMac_length type bytes hRead
        have hFits : Fits idf heap .answered false macLen type ↔ macLen = bytes.length ∨
            (bytes ≠ [] ∧ heap.macBytes = false) := by
          simp [Fits, hHeap, hRead, ← hLen, List.length_eq_zero_iff]
        rw [hFits]
        have hHandled := get_handled_ok hHeap hRead
        by_cases hLost : bytes ≠ [] ∧ heap.macBytes = false
        · refine iff_of_true ?_ (.inr hLost)
          rw [if_neg hLost.1, hLost.2] at hHandled
          exact get_fail (show failure ≠ hOk by decide) hHandled
        · rw [or_iff_left hLost]
          refine get_success (hLen ▸ idf.macAddrLenGet_le type) (hHandled.trans ?_)
          by_cases hNil : bytes = []
          · rw [if_pos hNil, hNil]
          · have hBytes : heap.macBytes = true := by
              simpa [hNil] using hLost
            rw [if_neg hNil, hBytes, if_pos rfl]

end Get

/-- For every type, every length, every buffer and every answer. -/
theorem iface_mac_iff (idf : Idf) (heap : Heap) (delivery : Delivery) (set : Bool)
    (mac : Option Memory) (macLen type : Nat) :
    Meets idf heap delivery set mac macLen type ↔
      mac = none ∨ Fits idf heap delivery set macLen type := by
  cases mac with
  | none =>
    refine iff_of_true ⟨⟨_, rfl, fun _ _ => rfl, fun _ hRet => ?_, fun _ hRet => ?_⟩, ?_⟩ (.inl rfl)
    · exact absurd hRet (show hErrInvalidArg ≠ hOk by decide)
    · exact absurd hRet (show hErrInvalidArg ≠ hOk by decide)
    · intro m m' hSome
      cases hSome
  | some m =>
    rw [or_iff_right (by simp)]
    cases set with
    | true => exact set_meets_iff delivery
    | false => exact get_meets_iff delivery

def espMacIeee802154 : Nat := 4

/-- A co-processor whose types have six bytes, and eight for IEEE 802.15.4. -/
def idf802154 : Idf where
  macAddrLenGet type := if type = espMacIeee802154 then 8 else 6
  readMac type := if type = espMacIeee802154 then .ok [1, 2, 3, 0xff, 0xfe, 4, 5, 6]
    else .ok [1, 2, 3, 4, 5, 6]
  ifaceMacAddrSet _ _ := none
  macAddrLenGet_le type := by
    split <;> decide
  readMac_length type mac hRead := by
    split at hRead
    · rename_i hType
      cases hRead
      rw [if_pos hType]
      rfl
    · rename_i hType
      cases hRead
      rw [if_neg hType]
      rfl

/-- A get of six bytes succeeds although the type has eight, and nine bytes of a set go behind the
array of the request. -/
theorem not_iface_mac :
    (rpcIfaceMacAddrSetGet idf802154 ⟨true, true⟩ .answered false (some zeros) 6
        espMacIeee802154).toOption.map (fun o => (o.ret, o.mac.map fun m => bytesOf m 6)) =
      some (hOk, some [1, 2, 3, 0xff, 0xfe, 4]) ∧
    ¬ Meets idf802154 ⟨true, true⟩ .answered false (some zeros) 6 espMacIeee802154 ∧
    (rpcIfaceMacAddrSetGet idf802154 ⟨true, true⟩ .answered true (some zeros) 9 0).toOption =
      none ∧
    ¬ Meets idf802154 ⟨true, true⟩ .answered true (some zeros) 9 0 := by
  refine ⟨by decide, ?_, rfl, ?_⟩
  · rw [get_meets_iff]
    intro hFits
    rcases hFits.2 _ rfl with hLen | hLost
    · exact absurd hLen (show (6 : Nat) ≠ 8 by decide)
    · exact Bool.noConfusion hLost.2
  · rw [set_meets_iff]
    intro hFits
    exact absurd hFits.1 (show ¬ 9 ≤ ifaceMacSize by decide)

end EspHosted.Rpc.IfaceMac
