import EspHosted.Lib.BitMask
import EspHosted.Lib.Wire
import EspHosted.Serial.HostRx
import Mathlib.Algebra.Group.Int.Defs
import Mathlib.Data.List.Forall2

/-!
# Scan results

`req_wifi_scan_get_ap_records` of the co-processor asks the driver for the access points it found
and puts them into the response one by one; every record needs six blocks of memory. The host
takes as many records out of the response as are announced in it.

* `agrees_iff`: when the host's record is the one of the driver;
* `response_counted`: a response announces an error, or as many records as it carries;
* `scanRecords_iff`: when the host gets exactly the records it asked for.
-/

namespace EspHosted.Wifi.ScanRecords

open BitMask Serial Wire

/-! ## Records of the driver -/

structure Country where
  cc : Vector UInt8 3
  schan : UInt8
  nchan : UInt8
  maxTxPower : Int8
  policy : Int

structure HeApInfo where
  bssColor : BitVec 6
  partialBssColor : Bool
  bssColorDisabled : Bool
  bssidIndex : UInt8

def ssidLength : Nat := 32

/-- `wifi_ap_record_t`. Enumerators are numbers. -/
structure ApRecord where
  bssid : Vector UInt8 6
  ssid : List UInt8
  ssid_le : ssid.length ≤ ssidLength
  primary : UInt8
  second : Int
  rssi : Int8
  authmode : Int
  pairwiseCipher : Int
  groupCipher : Int
  ant : Int
  phy11b : Bool
  phy11g : Bool
  phy11n : Bool
  phyLr : Bool
  phy11a : Bool
  phy11ac : Bool
  phy11ax : Bool
  wps : Bool
  ftmResponder : Bool
  ftmInitiator : Bool
  reserved : BitVec 22
  country : Country
  heAp : HeApInfo
  bandwidth : Int
  vhtChFreq1 : UInt8
  vhtChFreq2 : UInt8

/-- The array that `ssid` is, of 33 bytes. -/
def ApRecord.ssidArray (r : ApRecord) : List UInt8 :=
  r.ssid ++ List.replicate (ssidLength + 1 - r.ssid.length) 0

/-- A text ends at its first zero. -/
def text (src : List UInt8) : List UInt8 := src.takeWhile (· ≠ 0)

/-! ## Records in the message -/

structure WireCountry where
  cc : List UInt8
  schan : Nat
  nchan : Nat
  maxTxPower : Int
  policy : Int
  deriving DecidableEq

structure WireHeApInfo where
  bitmask : BitVec 32
  bssidIndex : Nat
  deriving DecidableEq

/-- `WifiApRecord`. -/
structure WireRecord where
  bssid : List UInt8
  ssid : List UInt8
  primary : Nat
  second : Int
  rssi : Int
  authmode : Int
  pairwiseCipher : Int
  groupCipher : Int
  ant : Int
  bitmask : BitVec 32
  country : WireCountry
  heAp : WireHeApInfo
  bandwidth : Nat
  vhtChFreq1 : Nat
  vhtChFreq2 : Nat
  deriving DecidableEq

/-- `RPC_COPY_STR`: what `strndup` copies, with its terminator if that fits. -/
def rpcCopyStr (src : List UInt8) (maxLen : Nat) : List UInt8 :=
  ((text src).take maxLen ++ [0]).take (min maxLen ((text src).length + 1))

/-- The flags, with the positions of `WIFI_SCAN_AP_REC_…_BIT`, and the reserved bits. -/
def scanBitmask (r : ApRecord) : BitVec 32 :=
  setField 10 r.reserved <| setBit 7 r.ftmInitiator <| setBit 6 r.ftmResponder <|
    setBit 5 r.wps <| setBit 4 r.phy11ax <| setBit 9 r.phy11ac <| setBit 8 r.phy11a <|
    setBit 3 r.phyLr <| setBit 2 r.phy11n <| setBit 1 r.phy11g <| setBit 0 r.phy11b 0#32

def heApBitmask (h : HeApInfo) : BitVec 32 :=
  setBit 7 h.bssColorDisabled <| setBit 6 h.partialBssColor <| h.bssColor.setWidth 32 &&& 0x3F#32

/-- `copy_ap_record_to_rpc_struct`, when its copies get memory. -/
def copyApRecordToRpcStruct (r : ApRecord) : WireRecord where
  bssid := r.bssid.toList
  ssid := rpcCopyStr r.ssidArray ssidLength
  primary := r.primary.toNat
  second := r.second
  rssi := r.rssi.toInt
  authmode := r.authmode
  pairwiseCipher := r.pairwiseCipher
  groupCipher := r.groupCipher
  ant := r.ant
  bitmask := scanBitmask r
  country := ⟨r.country.cc.toList, r.country.schan.toNat, r.country.nchan.toNat,
    r.country.maxTxPower.toInt, r.country.policy⟩
  heAp := ⟨heApBitmask r.heAp, r.heAp.bssidIndex.toNat⟩
  bandwidth := (r.bandwidth % 2 ^ 32).toNat
  vhtChFreq1 := r.vhtChFreq1.toNat
  vhtChFreq2 := r.vhtChFreq2.toNat

/-! ## The response -/

/-- `RpcRespWifiScanGetApRecords`; `n_ap_records` is the length of the list. -/
structure Resp where
  resp : Int
  number : Nat
  apRecords : List WireRecord
  deriving DecidableEq

/-- The results of the driver's calls, and the access points it has. -/
structure Driver where
  getApNum : Int
  getApRecords : Int
  aps : List ApRecord
  few : aps.length < 2 ^ 16

/-- The blocks of one record, in the order of their allocation. -/
inductive Part
  | record
  | country
  | heAp
  | ssid
  | bssid
  | cc
  deriving DecidableEq

/-- Which allocations succeed: the payload of the response, the list for the driver, the list of
the records, and the parts of each record. -/
structure SlaveEnv where
  respOk : Bool
  listOk : Bool
  recordsOk : Bool
  alloc : Nat → Part → Bool

def SlaveEnv.ideal : SlaveEnv := ⟨true, true, true, fun _ _ => true⟩

def rpcErrMemoryFailure : Int := 0x2f06
def failure : Int := -1

/-- One round of the loop; `RPC_ALLOC_ELEMENT` and the copies have their own errors. -/
def attach (alloc : Part → Bool) (r : ApRecord) : Except Int WireRecord :=
  if !(alloc .record && alloc .country && alloc .heAp) then .error rpcErrMemoryFailure
  else if !(alloc .ssid && alloc .bssid && alloc .cc) then .error failure
  else .ok (copyApRecordToRpcStruct r)

/-- The loop: `resp`, and the records attached before the first failure. -/
def attachAll (alloc : Nat → Part → Bool) : Nat → List ApRecord → Int × List WireRecord
  | _, [] => (0, [])
  | i, r :: rs =>
    match attach (alloc i) r with
    | .error e => (e, [])
    | .ok w => ((attachAll alloc (i + 1) rs).1, w :: (attachAll alloc (i + 1) rs).2)

/-- `req_wifi_scan_get_ap_records`: the payload of the response. Without memory for it the response
is sent without one. -/
def reqWifiScanGetApRecords (d : Driver) (env : SlaveEnv) (number : Nat) : Option Resp :=
  if !env.respOk then none
  else if !env.listOk then some ⟨1, 0, []⟩
  else if d.getApNum ≠ 0 ∨ d.aps.length = 0 then some ⟨0, 0, []⟩
  else if d.getApRecords ≠ 0 then some ⟨0, 0, []⟩
  else
    let list := d.aps.take number
    if !env.recordsOk then some ⟨rpcErrMemoryFailure, list.length, []⟩
    else some ⟨(attachAll env.alloc 0 list).1, list.length, (attachAll env.alloc 0 list).2⟩

/-! ## The serialized response -/

def intField (field : Nat) (x : Int) : List UInt8 := uintField field (x % 2 ^ 64).toNat

def wireCountry (c : WireCountry) : List UInt8 :=
  bytesField 1 c.cc ++ uintField 2 c.schan ++ uintField 3 c.nchan ++ intField 4 c.maxTxPower ++
    intField 5 c.policy

def wireHeApInfo (h : WireHeApInfo) : List UInt8 :=
  uintField 1 h.bitmask.toNat ++ uintField 2 h.bssidIndex

def wireRecord (w : WireRecord) : List UInt8 :=
  bytesField 1 w.bssid ++ bytesField 2 w.ssid ++ uintField 3 w.primary ++ intField 4 w.second ++
    intField 5 w.rssi ++ intField 6 w.authmode ++ intField 7 w.pairwiseCipher ++
    intField 8 w.groupCipher ++ intField 9 w.ant ++ uintField 10 w.bitmask.toNat ++
    messageField 11 (wireCountry w.country) ++ messageField 12 (wireHeApInfo w.heAp) ++
    uintField 13 w.bandwidth ++ uintField 14 w.vhtChFreq1 ++ uintField 15 w.vhtChFreq2

def rpcTypeResp : Nat := 2
def rpcIdRespWifiScanGetApRecords : Nat := 545

def wireResp (m : Resp) : List UInt8 :=
  messageField rpcIdRespWifiScanGetApRecords (intField 1 m.resp ++ uintField 2 m.number ++
    m.apRecords.flatMap fun w => messageField 3 (wireRecord w))

/-- The `Rpc` of the response, with its payload if it has one; `uid` is the one of the request. -/
def wire (uid : Nat) (resp : Option Resp) : List UInt8 :=
  uintField 1 rpcTypeResp ++ uintField 2 rpcIdRespWifiScanGetApRecords ++ uintField 3 uid ++
    resp.elim [] wireResp

/-- `rpc__pack` and `rpc__unpack` on the messages of this response. -/
abbrev Protobuf : Type := Codec (Option Resp)

/-! ## Records of the host -/

/-- `h_wifi_ap_record_t`. -/
structure HApRecord where
  bssid : List UInt8
  ssid : List UInt8
  ssidLen : Nat
  primaryChannel : Nat
  secondChannel : Nat
  rssi : Int8
  authmode : Nat
  pairwiseCipher : Nat
  groupCipher : Nat
  country : List UInt8
  countryLen : Nat
  phy11b : Bool
  phy11g : Bool
  phy11n : Bool
  phyLr : Bool
  wps : Bool
  deriving DecidableEq

def zeros (n : Nat) : List UInt8 := List.replicate n 0

def HApRecord.zero : HApRecord :=
  ⟨zeros 6, zeros 32, 0, 0, 0, 0, 0, 0, 0, zeros 3, 0, false, false, false, false, false⟩

/-- `RPC_RSP_COPY_BYTES` into an array of `n` zeros. -/
def overwrite (n : Nat) (src : List UInt8) : List UInt8 := src ++ (zeros n).drop src.length

/-- What is left of a number in a `uint8_t`. -/
def u8 (x : Int) : Nat := (x % 256).toNat

/-- `rpc_copy_ap_record`, into a record of zeros. -/
def rpcCopyApRecord (w : WireRecord) : HApRecord where
  bssid := overwrite 6 w.bssid
  ssid := overwrite 32 w.ssid
  ssidLen := min w.ssid.length 32
  primaryChannel := u8 w.primary
  secondChannel := u8 w.second
  rssi := Int8.ofInt w.rssi
  authmode := u8 w.authmode
  pairwiseCipher := u8 w.pairwiseCipher
  groupCipher := u8 w.groupCipher
  country := overwrite 3 w.country.cc
  countryLen := min w.country.cc.length 3
  phy11b := getBit 0 w.bitmask
  phy11g := getBit 1 w.bitmask
  phy11n := getBit 2 w.bitmask
  phyLr := getBit 3 w.bitmask
  wps := getBit 5 w.bitmask

/-! ## The call on the host -/

def hFail : Int := -1
def hErrInvalidArg : Int := -2

/-- What the caller of `rpc_wifi_scan_get_ap_records` sees: the result, `*number`, and the array
it passed. -/
structure Scan where
  ret : Int
  number : Nat
  records : List HApRecord
  deriving DecidableEq

/-- The response that `rpc_rx_thread` can read. -/
def receive (pb : Protobuf) (resp : Option Resp) : Option (Option Resp) :=
  if (pb.pack resp).length ≤ espTransportMaxBufSize then pb.unpack (pb.pack resp) else none

/-- `rpc_wifi_scan_get_ap_records`, with `rpc_parse_rsp`. A response that announces no records, or
has no payload, is one without an error. `none` is a read through a null pointer or behind the
list. -/
def rpcWifiScanGetApRecords (pb : Protobuf) (callocOk : Bool) (number : Nat)
    (resp : Option Resp) : Option Scan :=
  let array := List.replicate number HApRecord.zero
  if number = 0 then some ⟨hErrInvalidArg, number, array⟩
  else
    match receive pb resp with
    | none => some ⟨hFail, number, array⟩
    | some none => some ⟨0, 0, array⟩
    | some (some m) =>
      if m.resp ≠ 0 then some ⟨m.resp, number, array⟩
      else if m.number = 0 then some ⟨0, 0, array⟩
      else if m.apRecords = [] ∨ callocOk = false then none
      else if m.apRecords.length < m.number then none
      else some ⟨0, m.number,
        (m.apRecords.take m.number).map rpcCopyApRecord ++ array.drop m.number⟩

/-! ## One record -/

/-- The host's record is the driver's, as far as it has the fields. -/
structure Agrees (r : ApRecord) (h : HApRecord) : Prop where
  bssid : h.bssid = r.bssid.toList
  ssid : h.ssid = r.ssid ++ zeros (ssidLength - r.ssid.length)
  ssidLen : h.ssidLen = r.ssid.length
  primary : h.primaryChannel = r.primary.toNat
  second : (h.secondChannel : Int) = r.second
  rssi : h.rssi = r.rssi
  authmode : (h.authmode : Int) = r.authmode
  pairwiseCipher : (h.pairwiseCipher : Int) = r.pairwiseCipher
  groupCipher : (h.groupCipher : Int) = r.groupCipher
  country : h.country = r.country.cc.toList
  phy : (h.phy11b, h.phy11g, h.phy11n, h.phyLr, h.wps) =
    (r.phy11b, r.phy11g, r.phy11n, r.phyLr, r.wps)

/-- The SSID fills its field, or its only zero is its last byte. -/
def SsidKept (ssid : List UInt8) : Prop := ssid.length = min ssidLength ((text ssid).length + 1)

instance (ssid : List UInt8) : Decidable (SsidKept ssid) := inferInstanceAs (Decidable (_ = _))

/-- The enumerators that the host keeps in a byte. -/
def ApRecord.enums (r : ApRecord) : List Int :=
  [r.second, r.authmode, r.pairwiseCipher, r.groupCipher]

def Transferable (r : ApRecord) : Prop :=
  SsidKept r.ssid ∧ ∀ x ∈ r.enums, 0 ≤ x ∧ x < 256

theorem u8_eq_iff (x : Int) : (u8 x : Int) = x ↔ 0 ≤ x ∧ x < 256 := by
  unfold u8
  omega

theorem length_text_le (src : List UInt8) : (text src).length ≤ src.length :=
  (List.takeWhile_prefix _).length_le

theorem text_append_zeros (src : List UInt8) (n : Nat) : text (src ++ zeros n) = text src := by
  induction src with
  | nil => simp [text, zeros]
  | cons x src ih =>
    unfold text at ih ⊢
    rw [List.cons_append, List.takeWhile_cons, List.takeWhile_cons, ih]

theorem text_ssidArray (r : ApRecord) : text r.ssidArray = text r.ssid := text_append_zeros _ _

/-- Behind the text there are only zeros. -/
theorem eq_text_append_zeros {ssid : List UInt8} (h : SsidKept ssid) :
    ssid = text ssid ++ zeros (ssid.length - (text ssid).length) := by
  have hSplit : text ssid ++ ssid.dropWhile (· ≠ 0) = ssid := List.takeWhile_append_dropWhile
  have hLen : (text ssid).length + (ssid.dropWhile (· ≠ 0)).length = ssid.length := by
    rw [← List.length_append, hSplit]
  cases hRest : ssid.dropWhile (· ≠ 0) with
  | nil =>
    rw [hRest, List.append_nil] at hSplit
    rw [hSplit, Nat.sub_self]
    exact (List.append_nil ssid).symm
  | cons x rest =>
    have hZero : ¬ (x ≠ 0) := by
      have hNe : ssid.dropWhile (· ≠ 0) ≠ [] := hRest ▸ List.cons_ne_nil x rest
      have hHead := List.head_dropWhile_not (fun b : UInt8 => decide (b ≠ 0)) hNe
      simp only [hRest, List.head_cons] at hHead
      simpa using hHead
    rw [hRest, List.length_cons] at hLen
    obtain rfl : x = 0 := not_not.mp hZero
    obtain rfl : rest = [] := by
      unfold SsidKept at h
      exact List.length_eq_zero_iff.mp (by omega)
    rw [hRest] at hSplit
    rw [show ssid.length - (text ssid).length = 1 by rw [← hLen]; simp]
    exact hSplit.symm

theorem rpcCopyStr_eq {src : List UInt8} {maxLen : Nat} (h : (text src).length ≤ maxLen) :
    rpcCopyStr src maxLen =
      if (text src).length = maxLen then text src else text src ++ [0] := by
  unfold rpcCopyStr
  rw [List.take_of_length_le h]
  split
  · rename_i hFull
    rw [Nat.min_eq_left (by omega), ← hFull, List.take_left]
  · rename_i hRoom
    rw [Nat.min_eq_right (by omega), List.take_of_length_le (by simp)]

theorem length_rpcCopyStr {src : List UInt8} {maxLen : Nat} (h : (text src).length ≤ maxLen) :
    (rpcCopyStr src maxLen).length = min maxLen ((text src).length + 1) := by
  rw [rpcCopyStr_eq h]
  split
  · omega
  · rw [List.length_append, List.length_singleton]
    omega

theorem overwrite_rpcCopyStr {src : List UInt8} {n : Nat} (h : (text src).length ≤ n) :
    overwrite n (rpcCopyStr src n) = text src ++ zeros (n - (text src).length) := by
  unfold overwrite zeros
  rw [rpcCopyStr_eq h, List.drop_replicate]
  split
  · rfl
  · rename_i hRoom
    have hSucc : n - (text src).length = n - ((text src).length + 1) + 1 := by omega
    rw [List.length_append, List.length_singleton, hSucc, List.replicate_succ, List.append_assoc]
    rfl

theorem overwrite_full {n : Nat} (src : Vector UInt8 n) : overwrite n src.toList = src.toList := by
  unfold overwrite zeros
  rw [List.drop_replicate, Vector.length_toList, Nat.sub_self, List.replicate_zero,
    List.append_nil]

/-- Every flag has a bit of its own, below the reserved ones. -/
theorem getLsbD_scanBitmask (r : ApRecord) {k : Nat} (h : k < 10) :
    (scanBitmask r).getLsbD k = (r.phy11b && decide (k = 0) || r.phy11g && decide (k = 1) ||
      r.phy11n && decide (k = 2) || r.phyLr && decide (k = 3) || r.phy11a && decide (k = 8) ||
      r.phy11ac && decide (k = 9) || r.phy11ax && decide (k = 4) || r.wps && decide (k = 5) ||
      r.ftmResponder && decide (k = 6) || r.ftmInitiator && decide (k = 7)) := by
  have hBelow : ¬ 10 ≤ k := by omega
  unfold scanBitmask
  simp (disch := omega) only [getLsbD_setField, getLsbD_setBit]
  simp only [BitVec.getLsbD_zero, hBelow, decide_false, Bool.false_and, Bool.or_false,
    Bool.false_or]

theorem getBit_scanBitmask (r : ApRecord) :
    (getBit 0 (scanBitmask r), getBit 1 (scanBitmask r), getBit 2 (scanBitmask r),
      getBit 3 (scanBitmask r), getBit 5 (scanBitmask r)) =
        (r.phy11b, r.phy11g, r.phy11n, r.phyLr, r.wps) := by
  have hBit {k : Nat} (h : k < 10) : getBit k (scanBitmask r) = _ :=
    (getBit_eq (by omega)).trans (getLsbD_scanBitmask r h)
  rw [hBit (by decide), hBit (by decide), hBit (by decide), hBit (by decide), hBit (by decide)]
  simp

/-- Exactly when the host has the record that the driver returned. -/
theorem agrees_iff (r : ApRecord) :
    Agrees r (rpcCopyApRecord (copyApRecordToRpcStruct r)) ↔ Transferable r := by
  have hText : (text r.ssidArray).length ≤ ssidLength := by
    rw [text_ssidArray]
    exact Nat.le_trans (length_text_le r.ssid) r.ssid_le
  have hLen : (rpcCopyApRecord (copyApRecordToRpcStruct r)).ssidLen =
      min ssidLength ((text r.ssid).length + 1) := by
    simp only [rpcCopyApRecord, copyApRecordToRpcStruct]
    rw [length_rpcCopyStr hText, text_ssidArray]
    unfold ssidLength
    omega
  constructor
  · intro h
    refine ⟨h.ssidLen.symm.trans hLen, ?_⟩
    simp only [ApRecord.enums, List.forall_mem_cons, ← u8_eq_iff]
    exact ⟨h.second, h.authmode, h.pairwiseCipher, h.groupCipher, fun x hx => nomatch hx⟩
  · rintro ⟨hKept, hEnums⟩
    simp only [ApRecord.enums, List.forall_mem_cons, ← u8_eq_iff] at hEnums
    obtain ⟨hSecond, hAuth, hPairwise, hGroup, -⟩ := hEnums
    refine ⟨?_, ?_, ?_, ?_, hSecond, Int8.ofInt_toInt _, hAuth, hPairwise, hGroup, ?_,
      getBit_scanBitmask r⟩
    · exact overwrite_full r.bssid
    · show overwrite ssidLength (rpcCopyStr r.ssidArray ssidLength) = _
      have hSsid := eq_text_append_zeros hKept
      have hLe := length_text_le r.ssid
      have hRoom := r.ssid_le
      rw [overwrite_rpcCopyStr hText, text_ssidArray, show ssidLength - (text r.ssid).length =
        (r.ssid.length - (text r.ssid).length) + (ssidLength - r.ssid.length) by omega]
      unfold zeros at hSsid ⊢
      rw [List.replicate_add, ← List.append_assoc, ← hSsid]
    · rw [hLen]
      exact hKept.symm
    · have hPrimary := r.primary.toNat_lt
      show u8 (r.primary.toNat : Int) = r.primary.toNat
      unfold u8
      omega
    · exact overwrite_full r.country.cc

/-! ## All records -/

theorem attach_cases (alloc : Part → Bool) (r : ApRecord) :
    attach alloc r = .error rpcErrMemoryFailure ∨ attach alloc r = .error failure ∨
      attach alloc r = .ok (copyApRecordToRpcStruct r) := by
  unfold attach
  split
  · exact Or.inl rfl
  · split
    · exact Or.inr (Or.inl rfl)
    · exact Or.inr (Or.inr rfl)

theorem attach_ok {alloc : Part → Bool} (h : ∀ p, alloc p = true) (r : ApRecord) :
    attach alloc r = .ok (copyApRecordToRpcStruct r) := by
  simp [attach, h]

/-- The loop ends with an error, or has attached every record. -/
theorem attachAll_counted (alloc : Nat → Part → Bool) (i : Nat) (rs : List ApRecord) :
    (attachAll alloc i rs).1 ≠ 0 ∨ (attachAll alloc i rs).2.length = rs.length := by
  induction rs generalizing i with
  | nil => exact Or.inr rfl
  | cons r rs ih =>
    unfold attachAll
    rcases attach_cases (alloc i) r with h | h | h
    · rw [h]
      exact Or.inl (show rpcErrMemoryFailure ≠ 0 by decide)
    · rw [h]
      exact Or.inl (show failure ≠ 0 by decide)
    · rw [h]
      rcases ih (i + 1) with hFailed | hAll
      · exact Or.inl hFailed
      · exact Or.inr (congrArg (· + 1) hAll)

theorem attachAll_ok {alloc : Nat → Part → Bool} {i : Nat} {rs : List ApRecord}
    (h : ∀ k < rs.length, ∀ p, alloc (i + k) p = true) :
    attachAll alloc i rs = (0, rs.map copyApRecordToRpcStruct) := by
  induction rs generalizing i with
  | nil => rfl
  | cons r rs ih =>
    have hRest : attachAll alloc (i + 1) rs = (0, rs.map copyApRecordToRpcStruct) := by
      refine ih fun k hk p => ?_
      rw [Nat.add_right_comm]
      exact h (k + 1) (Nat.succ_lt_succ hk) p
    have hFirst : ∀ p, alloc i p = true := fun p => h 0 (Nat.succ_pos _) p
    unfold attachAll
    rw [attach_ok hFirst, hRest]
    rfl

/-- Whatever fails, a response announces an error or as many records as it carries. -/
theorem response_counted {d : Driver} {env : SlaveEnv} {number : Nat} {m : Resp}
    (h : reqWifiScanGetApRecords d env number = some m) :
    m.resp ≠ 0 ∨ m.number = m.apRecords.length := by
  unfold reqWifiScanGetApRecords at h
  dsimp only at h
  split_ifs at h
  · cases h
    exact Or.inl (show (1 : Int) ≠ 0 by decide)
  · cases h
    exact Or.inr rfl
  · cases h
    exact Or.inr rfl
  · cases h
    exact Or.inl (show rpcErrMemoryFailure ≠ 0 by decide)
  · cases h
    rcases attachAll_counted env.alloc 0 (d.aps.take number) with hFailed | hAll
    · exact Or.inl hFailed
    · exact Or.inr hAll.symm

/-- The response with all of the records. -/
def fullResponse (list : List ApRecord) : Resp :=
  ⟨0, list.length, list.map copyApRecordToRpcStruct⟩

/-- No call of the driver and no allocation fails. -/
structure NothingFails (d : Driver) (env : SlaveEnv) (callocOk : Bool) (number : Nat) : Prop where
  getApNum : d.getApNum = 0
  getApRecords : d.getApRecords = 0
  resp : env.respOk = true
  list : env.listOk = true
  records : env.recordsOk = true
  alloc : ∀ k < (d.aps.take number).length, ∀ p, env.alloc k p = true
  host : callocOk = true

variable {d : Driver} {env : SlaveEnv} {callocOk : Bool} {number uid : Nat} {pb : Protobuf}

theorem response_full (h : NothingFails d env callocOk number) :
    reqWifiScanGetApRecords d env number = some (fullResponse (d.aps.take number)) := by
  have hAll : attachAll env.alloc 0 (d.aps.take number) =
      (0, (d.aps.take number).map copyApRecordToRpcStruct) :=
    attachAll_ok fun k hk p => by rw [Nat.zero_add]; exact h.alloc k hk p
  unfold reqWifiScanGetApRecords
  simp only [h.resp, h.list, h.records, h.getApNum, h.getApRecords, hAll, Bool.not_true,
    Bool.false_eq_true, if_false, ne_eq, not_true_eq_false, false_or]
  split
  · rename_i hNone
    rw [List.length_eq_zero_iff.mp hNone, List.take_nil]
    rfl
  · rfl

/-- What the caller sees of a response that arrives. -/
theorem scan_full {list : List ApRecord} (hNumber : number ≠ 0)
    (hReceive : receive pb (some (fullResponse list)) = some (some (fullResponse list))) :
    rpcWifiScanGetApRecords pb true number (some (fullResponse list)) =
      some ⟨0, list.length, list.map (rpcCopyApRecord ∘ copyApRecordToRpcStruct) ++
        (List.replicate number HApRecord.zero).drop list.length⟩ := by
  unfold rpcWifiScanGetApRecords
  dsimp only
  rw [if_neg hNumber, hReceive]
  cases list with
  | nil => rfl
  | cons r rs =>
    have hCount : (fullResponse (r :: rs)).number = (fullResponse (r :: rs)).apRecords.length :=
      (List.length_map _).symm
    have hOk : ¬ (fullResponse (r :: rs)).resp ≠ 0 := not_not.mpr rfl
    have hMany : ¬ (fullResponse (r :: rs)).number = 0 := Nat.succ_ne_zero _
    have hSome : ¬ ((fullResponse (r :: rs)).apRecords = [] ∨ true = false) := by
      simp [fullResponse]
    dsimp only
    rw [if_neg hOk, if_neg hMany, if_neg hSome, hCount,
      if_neg (Nat.lt_irrefl _), List.take_length]
    simp [fullResponse]

/-- The host has exactly the first records, in order. -/
def Yields (d : Driver) (number : Nat) (result : Option Scan) : Prop :=
  ∃ scan, result = some scan ∧ scan.ret = 0 ∧ scan.number = min number d.aps.length ∧
    List.Forall₂ Agrees (d.aps.take number) (scan.records.take scan.number)

theorem forall₂_agrees_iff (list : List ApRecord) :
    List.Forall₂ Agrees list (list.map (rpcCopyApRecord ∘ copyApRecordToRpcStruct)) ↔
      ∀ r ∈ list, Transferable r := by
  rw [List.forall₂_map_right_iff, List.forall₂_same]
  exact forall₂_congr fun r _ => agrees_iff r

theorem yields_iff (hPb : pb.Lawful (wire uid) (some (fullResponse (d.aps.take number))))
    (h : NothingFails d env callocOk number) :
    Yields d number (rpcWifiScanGetApRecords pb callocOk number
      (reqWifiScanGetApRecords d env number)) ↔
        number ≠ 0 ∧ (wire uid (some (fullResponse (d.aps.take number)))).length ≤
          espTransportMaxBufSize ∧ ∀ r ∈ d.aps.take number, Transferable r := by
  rw [response_full h, h.host]
  by_cases hNumber : number = 0
  · refine ⟨?_, fun hAll => absurd hNumber hAll.1⟩
    rintro ⟨scan, hScan, hRet, -⟩
    rw [rpcWifiScanGetApRecords, if_pos hNumber] at hScan
    cases hScan
    cases hRet
  · by_cases hFits : (wire uid (some (fullResponse (d.aps.take number)))).length ≤
        espTransportMaxBufSize
    · have hReceive : receive pb (some (fullResponse (d.aps.take number))) =
          some (some (fullResponse (d.aps.take number))) := by
        rw [receive, hPb.1, if_pos hFits, hPb.2]
      rw [scan_full hNumber hReceive, ← forall₂_agrees_iff]
      have hLen : ((d.aps.take number).map
          (rpcCopyApRecord ∘ copyApRecordToRpcStruct)).length = (d.aps.take number).length :=
        List.length_map _
      constructor
      · rintro ⟨scan, hScan, -, -, hAgree⟩
        cases hScan
        dsimp only at hAgree
        rw [← hLen, List.take_left] at hAgree
        exact ⟨hNumber, hFits, hAgree⟩
      · rintro ⟨-, -, hAgree⟩
        refine ⟨_, rfl, rfl, List.length_take, ?_⟩
        dsimp only
        rw [← hLen, List.take_left]
        exact hAgree
    · refine ⟨?_, fun hAll => absurd hAll.2.1 hFits⟩
      rintro ⟨scan, hScan, hRet, -⟩
      have hLost : receive pb (some (fullResponse (d.aps.take number))) = none := by
        rw [receive, hPb.1, if_neg hFits]
      rw [rpcWifiScanGetApRecords, if_neg hNumber, hLost] at hScan
      cases hScan
      cases hRet

/-- If nothing fails, the host gets exactly the first records in order, whatever the driver found
and however many it asked for, if and only if it asked for some, the response fits into the
buffer of `rpc_rx_thread`, and every record can be transferred. Whatever fails on the
co-processor, the response announces an error or as many records as it carries. -/
theorem scanRecords_iff (pb : Protobuf) (uid : Nat) (d : Driver) (number : Nat)
    (hPb : pb.Lawful (wire uid) (some (fullResponse (d.aps.take number)))) :
    (∀ env callocOk, NothingFails d env callocOk number →
      (Yields d number (rpcWifiScanGetApRecords pb callocOk number
        (reqWifiScanGetApRecords d env number)) ↔
          number ≠ 0 ∧ (wire uid (some (fullResponse (d.aps.take number)))).length ≤
            espTransportMaxBufSize ∧ ∀ r ∈ d.aps.take number, Transferable r)) ∧
      ∀ env m, reqWifiScanGetApRecords d env number = some m →
        m.resp ≠ 0 ∨ m.number = m.apRecords.length :=
  ⟨fun _ _ h => yields_iff hPb h, fun _ _ h => response_counted h⟩

/-! ## One access point -/

/-- An access point on channel 6. -/
def sample (ssid : List UInt8) (h : ssid.length ≤ ssidLength) : ApRecord where
  bssid := Vector.replicate 6 7
  ssid := ssid
  ssid_le := h
  primary := 6
  second := 0
  rssi := -40
  authmode := 3
  pairwiseCipher := 4
  groupCipher := 4
  ant := 0
  phy11b := true
  phy11g := true
  phy11n := true
  phyLr := false
  phy11a := false
  phy11ac := false
  phy11ax := true
  wps := false
  ftmResponder := false
  ftmInitiator := false
  reserved := 0
  country := ⟨#v[0x44, 0x45, 0], 1, 13, 20, 0⟩
  heAp := ⟨0, false, false, 0⟩
  bandwidth := 1
  vhtChFreq1 := 0
  vhtChFreq2 := 0

def findsOne (ssid : List UInt8) (h : ssid.length ≤ ssidLength) : Driver :=
  ⟨0, 0, [sample ssid h], show 1 < 2 ^ 16 by decide⟩

theorem nothingFails_ideal (ssid : List UInt8) (h : ssid.length ≤ ssidLength) (number : Nat) :
    NothingFails (findsOne ssid h) .ideal true number :=
  ⟨rfl, rfl, rfl, rfl, rfl, fun _ _ _ => rfl, rfl⟩

/-- An SSID of 32 bytes. -/
def longSsid : List UInt8 := List.replicate 32 0x61

theorem scanRecords_iff_one :
    Yields (findsOne longSsid (by decide)) 5 (rpcWifiScanGetApRecords
      (Codec.only (wire 1) (some (fullResponse [sample longSsid (by decide)]))) true 5
        (reqWifiScanGetApRecords (findsOne longSsid (by decide)) .ideal 5)) := by
  have hBoth := scanRecords_iff
    (Codec.only (wire 1) (some (fullResponse [sample longSsid (by decide)]))) 1
    (findsOne longSsid (by decide)) 5 (Codec.only_lawful (wire 1) _)
  refine (hBoth.1 .ideal true (nothingFails_ideal _ _ _)).mpr ⟨by decide, by decide +kernel, ?_⟩
  intro r hr
  obtain rfl := List.mem_singleton.mp hr
  exact ⟨by decide, by decide⟩

/-- "home" arrives with a length of five. -/
theorem ssid_len_counts_terminator :
    ¬ ∀ pb uid d number env callocOk,
      Codec.Lawful pb (wire uid) (some (fullResponse (d.aps.take number))) →
      NothingFails d env callocOk number → number ≠ 0 →
        Yields d number (rpcWifiScanGetApRecords pb callocOk number
          (reqWifiScanGetApRecords d env number)) := by
  intro h
  have hLe : ([0x68, 0x6F, 0x6D, 0x65] : List UInt8).length ≤ ssidLength := by decide
  have hPb := Codec.only_lawful (wire 1) (some (fullResponse [sample _ hLe]))
  have hYields := h _ 1 (findsOne _ hLe) 5 .ideal true hPb (nothingFails_ideal _ _ _) (by decide)
  have hAll := ((yields_iff hPb (nothingFails_ideal _ hLe 5)).mp hYields).2.2
  have hKept := (hAll (sample _ hLe) (List.mem_singleton_self _)).1
  exact absurd hKept (show ¬ SsidKept [0x68, 0x6F, 0x6D, 0x65] by decide)

end EspHosted.Wifi.ScanRecords
