import EspHosted.Rpc.Arguments

/-!
# Transfer of the DHCP and DNS status

The status goes from the host to the co-processor in the set request, and back in the get response
and in an event. The request has texts with their terminator, the event blocks of 64 bytes, and the
handler of the get request copies texts to fields that it has not allocated.

* `setRequest_carried`, `event_carried`: what the set request and the event carry;
* `getResponse_carried_iff`: the get response carries nothing;
* `transfers_iff`: so when the three transfers are sound.
-/

namespace EspHosted.NwSplit.DhcpDns

open Rpc.Requests Rpc.Arguments

/-! ## Model -/

/-- The fields of `rpc_set_dhcp_dns_status_t`, of `rpc_dhcp_dns_status_t` and of the messages, by
what they hold of a number and of a text. -/
structure Status (ι τ : Type) where
  iface : ι
  netLinkUp : ι
  dhcpUp : ι
  dhcpIp : τ
  dhcpNm : τ
  dhcpGw : τ
  dnsUp : ι
  dnsIp : τ
  dnsType : ι
  deriving DecidableEq

variable {ι ι' ι'' τ τ' τ'' : Type}

/-- A hop treats all numbers alike, and all texts. -/
def Status.map (f : ι → ι') (g : τ → τ') (s : Status ι τ) : Status ι' τ' where
  iface := f s.iface
  netLinkUp := f s.netLinkUp
  dhcpUp := f s.dhcpUp
  dhcpIp := g s.dhcpIp
  dhcpNm := g s.dhcpNm
  dhcpGw := g s.dhcpGw
  dnsUp := f s.dnsUp
  dnsIp := g s.dnsIp
  dnsType := f s.dnsType

def Status.texts (s : Status ι τ) : List τ := [s.dhcpIp, s.dhcpNm, s.dhcpGw, s.dnsIp]

/-- An address of at most 63 characters. -/
structure Address where
  chars : List UInt8
  noZero : 0 ∉ chars
  short : chars.length ≤ 63

/-- An array of 64 bytes with a text that ends in it. -/
structure Block where
  bytes : List UInt8
  length : bytes.length = 64
  ends : 0 ∈ bytes

/-- `strlcpy` to an array of 64 bytes that is zero. -/
def strlcpy64 (s : List UInt8) : List UInt8 :=
  s.take 63 ++ List.replicate (64 - (s.take 63).length) 0

/-- `RPC_REQ_COPY_STR` of the host, with `strlen`. -/
def reqCopyStr (block : List UInt8) : List UInt8 :=
  block.take (min ((block.takeWhile (· ≠ 0)).length + 1) 64)

/-- `RPC_REQ_COPY_BYTES` of the co-processor to an array of 64 bytes that is zero. -/
def reqCopyBytes64 (field : List UInt8) : List UInt8 :=
  field.take 64 ++ List.replicate (64 - (field.take 64).length) 0

/-- `NTFY_COPY_BYTES` of an array of 64 bytes. -/
def ntfyCopyBytes64 (block : List UInt8) : List UInt8 := block.take 64

/-- `memcpy` of a field to an array of 64 bytes; `none` if it does not fit. -/
def memcpy64 (array field : List UInt8) : Option (List UInt8) :=
  if field.length ≤ 64 then some (field ++ array.drop field.length) else none

/-- The log line with `%s` is written for a field that is not empty, and reads up to a zero. -/
def Logged (field : List UInt8) : Prop := field = [] ∨ 0 ∈ field

instance (field : List UInt8) : Decidable (Logged field) := inferInstanceAs (Decidable (_ ∨ _))

/-- `rpc_set_dhcp_dns_status` and `compose_rpc_req`. -/
def setRequest (s : Status UInt8 Address) : Status Int (List UInt8) :=
  (s.map (fun n => (n.toNat : Int)) (strlcpy64 ·.chars)).map id reqCopyStr

/-- `req_set_dhcp_dns_status`. -/
def reqSetDhcpDnsStatus (m : Status Int (List UInt8)) : Status UInt8 (List UInt8) :=
  m.map (UInt8.ofInt ·) reqCopyBytes64

/-- `rpc_evt_Event_DhcpDnsStatus`. -/
def rpcEvtDhcpDnsStatus (e : Status Int Block) : Status Int (List UInt8) :=
  e.map id (ntfyCopyBytes64 ·.bytes)

/-- `rpc_parse_evt` to a structure that is zero. -/
def rpcParseEvt (m : Status Int (List UInt8)) : Status Int (Option (List UInt8)) :=
  m.map id (memcpy64 (List.replicate 64 0))

/-- What the network interface tells: whether there is an address and a name server, whether it is
up, the type of the name server and the addresses as texts. -/
structure NetIf where
  staticIpOk : Bool
  dnsOk : Bool
  up : Bool
  dnsType : UInt8
  dhcpIp : Address
  dhcpNm : Address
  dhcpGw : Address
  dnsIp : Address

/-- `ProtobufCBinaryData`. -/
structure BinaryData where
  data : Option (List UInt8)
  len : Nat

/-- A field of a message after its initialization. -/
def BinaryData.init : BinaryData := ⟨none, 0⟩

/-- `sizeof` of a pointer. -/
def pointerSize : Nat := 4

/-- `strlcpy` to the data of a field, and the length of the field; `none` is a write to an address
where nothing is allocated. -/
def BinaryData.strlcpy (field : BinaryData) (s : List UInt8) : Option BinaryData :=
  match field.data with
  | none => none
  | some mem =>
    let copied := s.take (pointerSize - 1) ++ [0]
    some ⟨some (copied ++ mem.drop copied.length), s.length⟩

/-- `req_get_dhcp_dns_status`. -/
def reqGetDhcpDnsStatus (n : NetIf) : Option (Status Int BinaryData) := do
  if !n.staticIpOk || !n.dnsOk then return ⟨0, 0, 0, .init, .init, .init, 0, .init, 0⟩
  let dhcpIp ← BinaryData.init.strlcpy n.dhcpIp.chars
  let dhcpNm ← BinaryData.init.strlcpy n.dhcpNm.chars
  let dhcpGw ← BinaryData.init.strlcpy n.dhcpGw.chars
  let dnsIp ← BinaryData.init.strlcpy n.dnsIp.chars
  let up := n.up.toNat
  return ⟨0, up, up, dhcpIp, dhcpNm, dhcpGw, up, dnsIp, n.dnsType.toNat⟩

/-! ## What is carried -/

/-- The co-processor has the flags and the texts of the host, and reads no text that does not end
within its field. -/
def SetCarried (s : Status UInt8 Address) : Prop :=
  (∀ field ∈ (setRequest s).texts, Logged field) ∧
    (reqSetDhcpDnsStatus (setRequest s)).map id cString = s.map id (some ·.chars)

/-- The host has the flags and the texts of the co-processor, with what is behind them, and writes
within its arrays. -/
def EventCarried (e : Status Int Block) : Prop :=
  rpcParseEvt (rpcEvtDhcpDnsStatus e) = e.map id (some ·.bytes)

/-- A response is built, and has what the network interface tells. -/
def GetCarried (n : NetIf) : Prop :=
  ∃ m, reqGetDhcpDnsStatus n = some m ∧ (n.staticIpOk = true ∧ n.dnsOk = true →
    m.netLinkUp = n.up.toNat ∧ m.dhcpUp = n.up.toNat ∧ m.dnsUp = n.up.toNat ∧
    m.dnsType = n.dnsType.toNat ∧
    (m.map id fun field => field.data.bind fun mem => cString (mem.take field.len)).texts =
      [some n.dhcpIp.chars, some n.dhcpNm.chars, some n.dhcpGw.chars, some n.dnsIp.chars])

/-! ## The hops -/

@[simp] theorem Status.map_map (f : ι → ι') (f' : ι' → ι'') (g : τ → τ') (g' : τ' → τ'')
    (s : Status ι τ) : (s.map f g).map f' g' = s.map (f' ∘ f) (g' ∘ g) := rfl

theorem Status.map_congr {f f' : ι → ι'} {g g' : τ → τ'} (hNum : ∀ n, f n = f' n)
    (hText : ∀ t, g t = g' t) (s : Status ι τ) : s.map f g = s.map f' g' := by
  rw [funext hNum, funext hText]

theorem strlcpy64_eq (a : Address) :
    strlcpy64 a.chars = a.chars ++ 0 :: List.replicate (63 - a.chars.length) 0 := by
  have hShort := a.short
  rw [strlcpy64, List.take_of_length_le hShort, ← List.replicate_succ]
  congr 2
  omega

/-- The request has the text and its terminator. -/
theorem reqCopyStr_eq (a : Address) : reqCopyStr (strlcpy64 a.chars) = terminated a.chars := by
  have hShort := a.short
  rw [reqCopyStr, strlcpy64_eq, takeWhile_append_zero _ a.noZero, Nat.min_eq_left (by omega),
    List.take_length_add_append]
  rfl

theorem reqCopyBytes64_eq (a : Address) :
    cString (reqCopyBytes64 (terminated a.chars)) = some a.chars := by
  have hShort := a.short
  have hLen : (terminated a.chars).length ≤ 64 := by
    rw [terminated, List.length_append]
    exact Nat.succ_le_succ hShort
  rw [reqCopyBytes64, List.take_of_length_le hLen, terminated, List.append_assoc]
  exact cString_append _ a.noZero

theorem ofInt_toNat (n : UInt8) : UInt8.ofInt (n.toNat : Int) = n := by
  have hByte : n.toNat < 256 := n.toNat_lt
  have hMod : ((n.toNat : Int) % 2 ^ 8).toNat = n.toNat := by omega
  rw [UInt8.ofInt, hMod, UInt8.ofNat_toNat]

theorem setRequest_carried (s : Status UInt8 Address) : SetCarried s := by
  constructor
  · intro field hField
    obtain ⟨a, -, rfl⟩ : ∃ a ∈ s.texts, reqCopyStr (strlcpy64 a.chars) = field :=
      List.mem_map.mp hField
    refine .inr ?_
    show 0 ∈ reqCopyStr (strlcpy64 a.chars)
    rw [reqCopyStr_eq]
    exact List.mem_append_right _ (List.mem_singleton_self 0)
  · have hText : ∀ a : Address, cString (reqCopyBytes64 (reqCopyStr (strlcpy64 a.chars))) =
        some a.chars := by
      intro a
      rw [reqCopyStr_eq, reqCopyBytes64_eq]
    exact Status.map_congr (show ∀ n : UInt8, UInt8.ofInt (n.toNat : Int) = id n from ofInt_toNat)
      hText s

theorem event_carried (e : Status Int Block) : EventCarried e := by
  have hText : ∀ b : Block, memcpy64 (List.replicate 64 0) (ntfyCopyBytes64 b.bytes) =
      some b.bytes := by
    intro b
    rw [ntfyCopyBytes64, List.take_of_length_le (Nat.le_of_eq b.length), memcpy64,
      if_pos (Nat.le_of_eq b.length), b.length, List.drop_replicate, Nat.sub_self,
      List.replicate_zero, List.append_nil]
  exact Status.map_congr (show ∀ n : Int, id n = id n from fun _ => rfl) hText e

/-- Nothing is copied to a field that is not allocated. -/
theorem strlcpy_init (s : List UInt8) : BinaryData.init.strlcpy s = none := rfl

theorem getResponse_carried_iff (n : NetIf) :
    GetCarried n ↔ n.staticIpOk = false ∨ n.dnsOk = false := by
  cases hIp : n.staticIpOk with
  | false =>
    refine iff_of_true ⟨⟨0, 0, 0, .init, .init, .init, 0, .init, 0⟩, ?_, ?_⟩ (.inl rfl)
    · rw [reqGetDhcpDnsStatus, hIp]
      rfl
    · rintro ⟨hTrue, -⟩
      cases hTrue.symm.trans hIp
  | true =>
    cases hDns : n.dnsOk with
    | false =>
      refine iff_of_true ⟨⟨0, 0, 0, .init, .init, .init, 0, .init, 0⟩, ?_, ?_⟩ (.inr rfl)
      · rw [reqGetDhcpDnsStatus, hIp, hDns]
        rfl
      · rintro ⟨-, hTrue⟩
        cases hTrue.symm.trans hDns
    | true =>
      refine iff_of_false ?_ (not_or.mpr ⟨Bool.noConfusion, Bool.noConfusion⟩)
      rintro ⟨m, hFault, -⟩
      rw [reqGetDhcpDnsStatus, hIp, hDns, strlcpy_init] at hFault
      cases hFault

/-- The set request and the event carry everything; the get response is built when there is nothing
to carry. -/
theorem transfers_iff (s : Status UInt8 Address) (e : Status Int Block) (n : NetIf) :
    (SetCarried s ∧ EventCarried e ∧ GetCarried n) ↔ n.staticIpOk = false ∨ n.dnsOk = false := by
  rw [← getResponse_carried_iff]
  exact ⟨fun h => h.2.2, fun h => ⟨setRequest_carried s, event_carried e, h⟩⟩

/-- An interface that is up: the first address is written to where nothing is allocated. -/
theorem get_unallocated : ¬ ∀ s e n, SetCarried s ∧ EventCarried e ∧ GetCarried n := by
  intro h
  let a : Address := ⟨[0x31], by decide, by decide⟩
  let b : Block := ⟨List.replicate 64 0, rfl, List.mem_cons_self⟩
  obtain ⟨m, hFault, -⟩ := (h ⟨0, 1, 1, a, a, a, 1, a, 0⟩ ⟨0, 1, 1, b, b, b, 1, b, 0⟩
    ⟨true, true, true, 0, a, a, a, a⟩).2.2
  cases hFault

end EspHosted.NwSplit.DhcpDns
