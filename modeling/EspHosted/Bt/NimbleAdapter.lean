import EspHosted.Driver.TxRelease
import Mathlib.Algebra.Group.Nat.Defs

/-!
# The NimBLE adapter

`hci_rx_handler` copies what comes from the co-processor into a buffer of NimBLE, with a length
from the packet. `ble_transport_to_ll_acl_impl` and `ble_transport_to_ll_cmd_impl` copy what NimBLE
sends into an aligned buffer for `h_transmit` and release the original.

* `hciRxHandler_sound_iff`: when the handler reads within the packet and leaves nothing behind;
* `aclReleased_iff`, `cmdReleased_iff`: when both buffers are released once, by their allocators;
* `sdioPort`, `uartPort`, with `sdioPort_handsBack_iff` and `uartPort_handsBack_iff`: the drivers
  as what `h_transmit` calls;
* `adapter_iff`: the three together.
-/

namespace EspHosted.Bt.NimbleAdapter

open Driver

/-! ## Receiving -/

def hciH4Acl : UInt8 := 2
def hciH4Evt : UInt8 := 4
def bleHciEventHdrLen : Nat := 2
def bleHciEvcodeHwError : UInt8 := 0x10
def bleHciEvcodeLeMeta : UInt8 := 0x3e
def bleHciLeSubevAdvRpt : UInt8 := 0x02
def bleHciLeSubevExtAdvRpt : UInt8 := 0x0d

def espOk : Int := 0
def espFail : Int := -1

/-- What NimBLE answers: whether there is an event and an mbuf, and the results of
`ble_transport_to_hs_evt`, `os_mbuf_append` and `ble_transport_to_hs_acl`. -/
structure RxEnv where
  evt : Bool
  toHsEvt : Int
  acl : Bool
  append : Int
  toHsAcl : Int

inductive RxEvent
  /-- `count` bytes of the packet are read, from `first` on. -/
  | read (first count : Nat)
  | allocEvt (discardable : Nat)
  /-- The first `count` bytes of the event are written. -/
  | writeEvt (count : Nat)
  | toHsEvt (rc : Int)
  | allocAcl
  | freeChain
  | toHsAcl (rc : Int)
  deriving DecidableEq

/-- An event from where it is allocated on. -/
def hciRxEvt (env : RxEnv) (discardable totlen : Nat) : List RxEvent × Int :=
  if env.evt then
    ([.allocEvt discardable, .writeEvt 1, .read 1 totlen, .writeEvt totlen, .toHsEvt env.toHsEvt],
      if env.toHsEvt ≠ 0 then espFail else espOk)
  else ([], espFail)

/-- `hci_rx_handler` on a packet of `bufLen` bytes, with what is behind them in memory. The length
is an `uint32_t`, and that of `os_mbuf_append` an `uint16_t`. -/
def hciRxHandler (evtSize : Nat) (env : RxEnv) (buf : Nat → UInt8) (bufLen : Nat) :
    List RxEvent × Int :=
  if buf 0 = hciH4Evt then
    let totlen := bleHciEventHdrLen + (buf 2).toNat
    if 255 + bleHciEventHdrLen < totlen then ([.read 0 1, .read 2 1], espFail)
    else if evtSize < totlen then ([.read 0 1, .read 2 1], espFail)
    else if buf 1 = bleHciEvcodeHwError then ([.read 0 1, .read 2 1, .read 1 1], espFail)
    else if buf 1 = bleHciEvcodeLeMeta then
      let discardable := if buf 3 = bleHciLeSubevAdvRpt ∨ buf 3 = bleHciLeSubevExtAdvRpt then 1
        else 0
      let result := hciRxEvt env discardable totlen
      (.read 0 1 :: .read 2 1 :: .read 1 1 :: .read 3 1 :: result.1, result.2)
    else
      let result := hciRxEvt env 0 totlen
      (.read 0 1 :: .read 2 1 :: .read 1 1 :: result.1, result.2)
  else if buf 0 = hciH4Acl then
    if env.acl then
      let count := (bufLen % 2 ^ 32 + 2 ^ 32 - 1) % 2 ^ 32 % 65536
      let events : List RxEvent := [.read 0 1, .allocAcl, .read 1 count]
      if env.append ≠ 0 then (events ++ [.freeChain], espFail)
      else (events ++ [.toHsAcl env.toHsAcl], espOk)
    else ([.read 0 1], espFail)
  else ([.read 0 1], espOk)

def RxEvent.allocates : RxEvent → Bool
  | .allocEvt _ | .allocAcl => true
  | _ => false

/-- A buffer is given away where NimBLE takes it, or released. -/
def RxEvent.gives : RxEvent → Bool
  | .toHsEvt rc | .toHsAcl rc => rc == 0
  | .freeChain => true
  | _ => false

/-- A read within the packet, or a write within the event. -/
def RxEvent.Within (evtSize bufLen : Nat) : RxEvent → Prop
  | .read first count => first + count ≤ bufLen
  | .writeEvt count => count ≤ evtSize
  | _ => True

/-- What a handler does stays within the packet and the event, and what it has allocated is given
away when it returns an error. -/
structure Sound (evtSize bufLen : Nat) (result : List RxEvent × Int) : Prop where
  within : ∀ e ∈ result.1, e.Within evtSize bufLen
  balanced : result.2 ≠ espOk →
    result.1.countP RxEvent.allocates = result.1.countP RxEvent.gives

/-- An event that gets a buffer is as long as it says and NimBLE takes it. -/
def EvtArrives (env : RxEnv) (buf : Nat → UInt8) (bufLen : Nat) : Prop :=
  env.evt = true → bleHciEventHdrLen + 1 + (buf 2).toNat ≤ bufLen ∧ env.toHsEvt = 0

/-- Every byte of an event that is looked at was received, and it arrives unless it is refused. -/
def EvtSound (evtSize : Nat) (env : RxEnv) (buf : Nat → UInt8) (bufLen : Nat) : Prop :=
  3 ≤ bufLen ∧
    (bleHciEventHdrLen + (buf 2).toNat ≤ evtSize → buf 1 ≠ bleHciEvcodeHwError →
      (buf 1 = bleHciEvcodeLeMeta → 4 ≤ bufLen) ∧ EvtArrives env buf bufLen)

/-! ## Sending -/

def hBuffNoZerocopy : Nat := 0

/-- The free functions of NimBLE. -/
structure Nimble where
  osMbufFreeChain : Nat
  bleTransportFree : Nat

/-- A handle in copy mode with a payload that is there, which the driver has to free. -/
structure CopyCall (c : Call) : Prop where
  ifType : c.ifType = espHciIf
  copy : c.buffZcopy = hBuffNoZerocopy
  payload : c.payloadBuf ≠ 0
  same : c.bufferToFree = c.payloadBuf
  flags : c.flags = 0
  func : ∃ f, c.freeBufFunc = .caller f

/-- The slots `free`, `free_align` and `transmit` of a port. Of what it is given, a driver frees
nothing but the buffer of the call, with the function of the call, at most once. -/
structure Port where
  free : Nat
  freeAlign : Nat
  transmit : Call → List Event
  atMostOnce : ∀ c, CopyCall c → (transmit c).filter Event.ofCaller = [] ∨
    (transmit c).filter Event.ofCaller = [.free c.freeBufFunc c.bufferToFree]

def Port.HandsBack (port : Port) (c : Call) : Prop :=
  (port.transmit c).filter Event.ofCaller = [.free c.freeBufFunc c.bufferToFree]

/-- The call of `h_transmit` for the aligned copy, which is not `NULL`; the length is an
`uint16_t`. -/
def hciCall (port : Port) (data len : Nat) : Call where
  ifType := espHciIf
  payloadBuf := data
  payloadLen := len % 65536
  buffZcopy := hBuffNoZerocopy
  bufferToFree := data
  freeBufFunc := .caller port.free
  flags := 0

/-- `ble_transport_to_ll_acl_impl` on a chain of `pktlen` bytes. `data` is what `h_malloc_align`
returns and `flat` what `ble_hs_mbuf_to_flat` does. -/
def bleTransportToLlAclImpl (nimble : Nimble) (port : Port) (om pktlen data : Nat) (flat : Int) :
    List Event :=
  let atExit := [.free (.caller nimble.osMbufFreeChain) om]
  if data = 0 then atExit
  else if flat ≠ 0 then
    [.free (.caller nimble.osMbufFreeChain) om, .free (.caller port.freeAlign) data] ++ atExit
  else port.transmit (hciCall port data (pktlen + 1)) ++ atExit

/-- `ble_transport_to_ll_cmd_impl`; `paramLen` is the third byte of the command. -/
def bleTransportToLlCmdImpl (nimble : Nimble) (port : Port) (buf : Nat) (paramLen : UInt8)
    (data : Nat) : List Event :=
  let atExit := [.free (.caller nimble.bleTransportFree) buf]
  if data = 0 then atExit
  else port.transmit (hciCall port data (3 + paramLen.toNat + 1)) ++ atExit

/-- The original is released once with its function, the aligned copy once with `free_align` if
there is one, and nothing else. -/
def ReleasedBoth (port : Port) (func original data : Nat) (events : List Event) : Prop :=
  (events.filter Event.ofCaller).Perm
    (.free (.caller func) original ::
      if data = 0 then [] else [.free (.caller port.freeAlign) data])

/-! ## The handler -/

section Sound

variable {evtSize bufLen : Nat}

/-- Nothing that only reads takes or gives a buffer. -/
theorem sound_read (first count : Nat) (events : List RxEvent) (rc : Int) :
    Sound evtSize bufLen (.read first count :: events, rc) ↔
      first + count ≤ bufLen ∧ Sound evtSize bufLen (events, rc) := by
  have hAllocates : (RxEvent.read first count :: events).countP RxEvent.allocates =
      events.countP RxEvent.allocates := List.countP_cons_of_neg Bool.false_ne_true
  have hGives : (RxEvent.read first count :: events).countP RxEvent.gives =
      events.countP RxEvent.gives := List.countP_cons_of_neg Bool.false_ne_true
  constructor
  · rintro ⟨hWithin, hBalanced⟩
    rw [List.forall_mem_cons] at hWithin
    exact ⟨hWithin.1, hWithin.2, fun hRc => hAllocates ▸ hGives ▸ hBalanced hRc⟩
  · rintro ⟨hRead, hWithin, hBalanced⟩
    exact ⟨List.forall_mem_cons.mpr ⟨hRead, hWithin⟩, fun hRc =>
      hAllocates.trans ((hBalanced hRc).trans hGives.symm)⟩

theorem sound_nil (rc : Int) : Sound evtSize bufLen ([], rc) :=
  ⟨fun _ h => (List.not_mem_nil h).elim, fun _ => rfl⟩

/-- An event that fits is sound if it is as long as it says and NimBLE takes it. -/
theorem hciRxEvt_sound_iff (env : RxEnv) (discardable : Nat) {totlen : Nat} (hPos : 1 ≤ totlen)
    (hFits : totlen ≤ evtSize) :
    Sound evtSize bufLen (hciRxEvt env discardable totlen) ↔
      (env.evt = true → 1 + totlen ≤ bufLen ∧ env.toHsEvt = 0) := by
  unfold hciRxEvt
  cases env.evt with
  | false => exact iff_of_true (sound_nil _) Bool.noConfusion
  | true =>
    simp only [if_true, true_implies]
    constructor
    · rintro ⟨hWithin, hBalanced⟩
      refine ⟨hWithin (.read 1 totlen) (by simp), ?_⟩
      by_contra hTaken
      have hCount := hBalanced (by simp [hTaken, espFail, espOk])
      simp [RxEvent.allocates, RxEvent.gives, hTaken] at hCount
    · rintro ⟨hRead, hTaken⟩
      refine ⟨?_, fun hRc => absurd (by simp [hTaken]) hRc⟩
      simp only [List.forall_mem_cons, RxEvent.Within]
      exact ⟨trivial, Nat.le_trans hPos hFits, hRead, hFits, trivial,
        fun _ h => (List.not_mem_nil h).elim⟩

/-- An event is sound if what is looked at was received, and it arrives unless it is refused. -/
theorem hciRxHandler_evt_iff (env : RxEnv) {buf : Nat → UInt8} (hEvt : buf 0 = hciH4Evt) :
    Sound evtSize bufLen (hciRxHandler evtSize env buf bufLen) ↔
      EvtSound evtSize env buf bufLen := by
  have hNotMax : ¬ 255 + bleHciEventHdrLen < bleHciEventHdrLen + (buf 2).toNat := by
    have hByte : (buf 2).toNat < 256 := (buf 2).toNat_lt
    omega
  have hReads : ∀ result : List RxEvent × Int,
      Sound evtSize bufLen (.read 0 1 :: .read 2 1 :: result.1, result.2) ↔
        3 ≤ bufLen ∧ Sound evtSize bufLen result := by
    intro result
    rw [sound_read, sound_read, ← and_assoc]
    exact and_congr_left fun _ => by omega
  have hCode : ∀ result : List RxEvent × Int, 3 ≤ bufLen →
      (Sound evtSize bufLen (.read 1 1 :: result.1, result.2) ↔ Sound evtSize bufLen result) := by
    intro result hLen
    rw [sound_read]
    exact and_iff_right (by omega)
  have hArrives : ∀ discardable, bleHciEventHdrLen + (buf 2).toNat ≤ evtSize →
      (Sound evtSize bufLen (hciRxEvt env discardable (bleHciEventHdrLen + (buf 2).toNat)) ↔
        EvtArrives env buf bufLen) := by
    intro discardable hFits
    rw [hciRxEvt_sound_iff env discardable (by simp only [bleHciEventHdrLen]; omega) hFits,
      EvtArrives]
    refine imp_congr_right fun _ => and_congr_left fun _ => ?_
    omega
  simp only [hciRxHandler]
  rw [if_pos hEvt, if_neg hNotMax, EvtSound]
  by_cases hFits : bleHciEventHdrLen + (buf 2).toNat ≤ evtSize
  · rw [if_neg (Nat.not_lt.mpr hFits)]
    by_cases hHw : buf 1 = bleHciEvcodeHwError
    · rw [if_pos hHw]
      refine (hReads (_, _)).trans (and_congr_right fun hLen => ?_)
      exact iff_of_true ((hCode (_, _) hLen).mpr (sound_nil _)) fun _ h => absurd hHw h
    · rw [if_neg hHw]
      by_cases hMeta : buf 1 = bleHciEvcodeLeMeta
      · rw [if_pos hMeta]
        refine (hReads (_, _)).trans (and_congr_right fun hLen => (hCode (_, _) hLen).trans ?_)
        rw [sound_read]
        exact (and_congr_right fun _ => hArrives _ hFits).trans
          ⟨fun h _ _ => ⟨fun _ => h.1, h.2⟩, fun h => ⟨(h hFits hHw).1 hMeta, (h hFits hHw).2⟩⟩
      · rw [if_neg hMeta]
        refine (hReads (_, _)).trans (and_congr_right fun hLen => (hCode (_, _) hLen).trans ?_)
        exact (hArrives _ hFits).trans
          ⟨fun h _ _ => ⟨fun hNot => absurd hNot hMeta, h⟩, fun h => (h hFits hHw).2⟩
  · rw [if_pos (Nat.not_le.mp hFits)]
    refine (hReads ([], _)).trans (and_congr_right fun _ => ?_)
    exact iff_of_true (sound_nil _) fun h => absurd h hFits

/-- Any other packet is sound if it is not empty. -/
theorem hciRxHandler_other_iff (env : RxEnv) {buf : Nat → UInt8} (hEvt : buf 0 ≠ hciH4Evt) :
    Sound evtSize bufLen (hciRxHandler evtSize env buf bufLen) ↔ 1 ≤ bufLen := by
  have hFirst : ∀ result : List RxEvent × Int, (1 ≤ bufLen → Sound evtSize bufLen result) →
      (Sound evtSize bufLen (.read 0 1 :: result.1, result.2) ↔ 1 ≤ bufLen) := by
    intro result hSound
    rw [sound_read]
    exact ⟨fun h => by omega, fun h => ⟨by omega, hSound h⟩⟩
  simp only [hciRxHandler]
  rw [if_neg hEvt]
  by_cases hAcl : buf 0 = hciH4Acl
  · rw [if_pos hAcl]
    cases env.acl with
    | false => exact hFirst ([], _) fun _ => sound_nil _
    | true =>
      have hRead : 1 ≤ bufLen →
          1 + (bufLen % 2 ^ 32 + 2 ^ 32 - 1) % 2 ^ 32 % 65536 ≤ bufLen := by omega
      rw [if_pos rfl]
      by_cases hAppend : env.append = 0
      · rw [if_neg (not_not.mpr hAppend)]
        refine hFirst (_, _) fun hLen => ⟨?_, fun hRc => absurd rfl hRc⟩
        refine List.forall_mem_cons.mpr ⟨trivial, List.forall_mem_cons.mpr ⟨hRead hLen, ?_⟩⟩
        exact List.forall_mem_singleton.mpr trivial
      · rw [if_pos hAppend]
        refine hFirst (_, _) fun hLen => ⟨?_, fun _ => rfl⟩
        refine List.forall_mem_cons.mpr ⟨trivial, List.forall_mem_cons.mpr ⟨hRead hLen, ?_⟩⟩
        exact List.forall_mem_singleton.mpr trivial
  · rw [if_neg hAcl]
    exact hFirst ([], _) fun _ => sound_nil _

/-- The handler is sound on a packet that is not empty and, if it is an event, is as long as what is
looked at and arrives. -/
theorem hciRxHandler_sound_iff (env : RxEnv) (buf : Nat → UInt8) :
    Sound evtSize bufLen (hciRxHandler evtSize env buf bufLen) ↔
      1 ≤ bufLen ∧ (buf 0 = hciH4Evt → EvtSound evtSize env buf bufLen) := by
  by_cases hEvt : buf 0 = hciH4Evt
  · rw [hciRxHandler_evt_iff env hEvt]
    exact ⟨fun h => ⟨Nat.le_trans (by decide) h.1, fun _ => h⟩, fun h => h.2 hEvt⟩
  · rw [hciRxHandler_other_iff env hEvt]
    exact ⟨fun h => ⟨h, fun hNot => absurd hNot hEvt⟩, fun h => h.1⟩

end Sound

/-! ## Who releases what is sent -/

section Ports

variable {c : Call}

theorem free_ofCaller (hCopy : CopyCall c) :
    (freePtrWithFunc c.freeBufFunc c.bufferToFree).filter Event.ofCaller =
      [.free c.freeBufFunc c.bufferToFree] := by
  obtain ⟨f, hFunc⟩ := hCopy.func
  have hFree : c.bufferToFree ≠ 0 := hCopy.same ▸ hCopy.payload
  rw [freePtrWithFunc, hFunc, if_pos ⟨FreeFunc.noConfusion, hFree⟩]
  rfl

/-- At the label `done` the copy is handed back unless nothing is left of it. -/
theorem atDone_ofCaller (hCopy : CopyCall c) (len : Nat) {func : FreeFunc} {buf : Nat}
    (hDriver : (freePtrWithFunc func buf).filter Event.ofCaller = []) :
    (atDone c.bufHandle len func buf).filter Event.ofCaller =
      if len = 0 then [] else [.free c.freeBufFunc c.bufferToFree] := by
  rw [atDone, List.filter_append, hDriver, List.append_nil]
  by_cases hLen : len = 0
  · rw [if_pos hLen, if_neg fun h => h.1 hLen]
    rfl
  · rw [if_neg hLen, if_pos ⟨hLen, hCopy.copy⟩]
    exact free_ofCaller hCopy

theorem sendBuffer_ofCaller (buf : Nat) :
    (freePtrWithFunc .sendBuffer buf).filter Event.ofCaller = [] := by
  rw [freePtrWithFunc]
  split <;> rfl

theorem writes_ofCaller {writes : List Event} (hWrites : ∀ e ∈ writes, e.isWrite = true) :
    writes.filter Event.ofCaller = [] := by
  refine List.filter_eq_nil_iff.mpr fun e he => ?_
  have hWrite := hWrites e he
  cases e <;> simp_all [Event.ofCaller, Event.isWrite]

/-- The copy of an HCI packet that fits has one byte less. -/
theorem copyPayload_hci {size : Nat} (hCopy : CopyCall c) (hLen : c.payloadLen ≠ 0)
    (hMax : c.payloadLen + headerSize ≤ size) (hSize : size ≤ 65535) :
    copyPayload size c.bufHandle = some (c.payloadLen - 1) := by
  have hHci : c.ifType % 16 = espHciIf := by rw [hCopy.ifType]; rfl
  rw [copyPayload_eq hCopy.copy hMax hSize, if_pos hHci, if_pos ⟨hCopy.payload, hLen⟩]

/-- The SDIO driver keeps the copy of an HCI packet of one byte that it sends. -/
theorem sdioTx_ofCaller (env : Env) (t : SdioWriteTask) (hCopy : CopyCall c) :
    (sdioTx env t c).filter Event.ofCaller =
      if sdioAccepts env c = true ∧ env.sendBuf ≠ 0 ∧ c.payloadLen = 1 then []
      else [.free c.freeBufFunc c.bufferToFree] := by
  unfold sdioTx
  cases hAccepts : sdioAccepts env c with
  | false =>
    rw [if_neg Bool.false_ne_true, if_neg fun h => Bool.false_ne_true h.1]
    exact free_ofCaller hCopy
  | true =>
    obtain ⟨-, hLen, hMax, -⟩ := of_decide_eq_true hAccepts
    rw [if_pos rfl]
    by_cases hBuf : env.sendBuf = 0
    · rw [sdioWriteTask_noBuffer t hLen hCopy.copy hBuf, if_neg fun h => h.2.1 hBuf]
      exact (atDone_ofCaller hCopy _ rfl).trans (if_neg hLen)
    · have hFits : c.payloadLen + headerSize ≤ maxSdioBufferSize := by
        simp only [maxSdioBufferSize, headerSize] at hMax ⊢
        omega
      obtain ⟨writes, hWrites, hEvents⟩ := sdioWriteTask_copy t hLen hMax hCopy.copy hBuf
        (copyPayload_hci hCopy hLen hFits (by decide))
      rw [hEvents, List.filter_append, List.filter_append, writes_ofCaller hWrites]
      refine (atDone_ofCaller hCopy _ (sendBuffer_ofCaller _)).trans ?_
      exact if_congr ⟨fun h => ⟨rfl, hBuf, by omega⟩, fun h => by omega⟩ rfl rfl

/-- The UART driver also keeps one that it has no buffer for. -/
theorem uartTx_ofCaller (env : Env) (hCopy : CopyCall c) :
    (uartTx env c).filter Event.ofCaller =
      if uartAccepts env c = true ∧ (env.sendBuf = 0 ∨ c.payloadLen = 1) then []
      else [.free c.freeBufFunc c.bufferToFree] := by
  unfold uartTx
  cases hAccepts : uartAccepts env c with
  | false =>
    rw [if_neg Bool.false_ne_true, if_neg fun h => Bool.false_ne_true h.1]
    exact free_ofCaller hCopy
  | true =>
    have hEntry := of_decide_eq_true hAccepts
    have hLen : c.payloadLen ≠ 0 := fun h => hEntry ⟨.inl hCopy.flags, .inr (.inl h)⟩
    have hMax : ¬ maxUartBufferSize - headerSize < c.bufHandle.payloadLen :=
      fun h => hEntry ⟨.inl hCopy.flags, .inr (.inr (.inl h))⟩
    have hFits : c.payloadLen + headerSize ≤ maxUartBufferSize := by
      simp only [maxUartBufferSize, headerSize, Call.bufHandle] at hMax ⊢
      omega
    have hCopied := copyPayload_hci hCopy hLen hFits (by decide)
    have hZero : c.bufHandle.payloadZcopy = 0 := hCopy.copy
    rw [if_pos rfl, uartWritePacket, if_neg fun h => hLen h.2]
    by_cases hBuf : env.sendBuf = 0
    · rw [if_pos ⟨hZero, hBuf⟩, if_pos ⟨rfl, .inl hBuf⟩]
      rfl
    · rw [if_neg fun h => hBuf h.2]
      simp only [if_pos hZero]
      rw [if_neg hMax, if_neg hBuf, hCopied]
      have hDone : (atDone c.bufHandle (c.payloadLen - 1) .sendBuffer env.sendBuf).filter
          Event.ofCaller = _ := atDone_ofCaller hCopy _ (sendBuffer_ofCaller _)
      rw [List.filter_append, hDone]
      exact if_congr ⟨fun h => ⟨trivial, .inr (by omega)⟩, fun h => by omega⟩ rfl rfl

end Ports

/-- A port with the SDIO driver, whose task has handled other packets. -/
def sdioPort (free freeAlign : Nat) (env : Env) (t : SdioWriteTask) : Port where
  free := free
  freeAlign := freeAlign
  transmit := sdioTx env t
  atMostOnce c hCopy := by
    rw [sdioTx_ofCaller env t hCopy]
    split
    · exact .inl rfl
    · exact .inr rfl

def uartPort (free freeAlign : Nat) (env : Env) : Port where
  free := free
  freeAlign := freeAlign
  transmit := uartTx env
  atMostOnce c hCopy := by
    rw [uartTx_ofCaller env hCopy]
    split
    · exact .inl rfl
    · exact .inr rfl

section Released

variable {c : Call} {nimble : Nimble} {port : Port}

theorem sdioPort_handsBack_iff (free freeAlign : Nat) (env : Env) (t : SdioWriteTask)
    (hCopy : CopyCall c) : (sdioPort free freeAlign env t).HandsBack c ↔
      ¬ (sdioAccepts env c = true ∧ env.sendBuf ≠ 0 ∧ c.payloadLen = 1) := by
  rw [Port.HandsBack]
  show (sdioTx env t c).filter Event.ofCaller = _ ↔ _
  rw [sdioTx_ofCaller env t hCopy]
  split
  · exact iff_of_false (List.cons_ne_nil _ _).symm (not_not.mpr ‹_›)
  · exact iff_of_true rfl ‹_›

theorem uartPort_handsBack_iff (free freeAlign : Nat) (env : Env) (hCopy : CopyCall c) :
    (uartPort free freeAlign env).HandsBack c ↔
      ¬ (uartAccepts env c = true ∧ (env.sendBuf = 0 ∨ c.payloadLen = 1)) := by
  rw [Port.HandsBack]
  show (uartTx env c).filter Event.ofCaller = _ ↔ _
  rw [uartTx_ofCaller env hCopy]
  split
  · exact iff_of_false (List.cons_ne_nil _ _).symm (not_not.mpr ‹_›)
  · exact iff_of_true rfl ‹_›

theorem hciCall_copy (port : Port) {data : Nat} (hData : data ≠ 0) (len : Nat) :
    CopyCall (hciCall port data len) :=
  ⟨rfl, rfl, hData, rfl, rfl, port.free, rfl⟩

/-- A copy that is transmitted is released by its allocator if the driver hands it back and the
function it is given is that of the allocator. -/
theorem transmit_released_iff {func original data len : Nat} (hData : data ≠ 0) :
    ReleasedBoth port func original data
        (port.transmit (hciCall port data len) ++ [.free (.caller func) original]) ↔
      port.HandsBack (hciCall port data len) ∧ port.free = port.freeAlign := by
  rw [ReleasedBoth, List.filter_append, if_neg hData]
  have hOriginal : [Event.free (.caller func) original].filter Event.ofCaller =
      [.free (.caller func) original] := rfl
  rw [hOriginal, Port.HandsBack]
  rcases port.atMostOnce _ (hciCall_copy port hData len) with hNone | hOnce
  · rw [hNone]
    refine iff_of_false (fun h => ?_) (fun h => List.cons_ne_nil _ _ h.1.symm)
    exact absurd h.length_eq (by simp)
  · rw [hOnce, and_iff_right rfl, List.singleton_append]
    constructor
    · intro h
      have hCopy := (List.perm_cons _).mp ((List.Perm.swap _ _ []).trans h)
      have hFree : Event.free (.caller port.free) data = .free (.caller port.freeAlign) data :=
        List.singleton_perm_singleton.mp hCopy
      injection hFree with hFunc
      exact FreeFunc.caller.inj hFunc
    · intro h
      rw [← h]
      exact List.Perm.swap _ _ []

theorem cmdReleased_iff (buf : Nat) (paramLen : UInt8) (data : Nat) :
    ReleasedBoth port nimble.bleTransportFree buf data
        (bleTransportToLlCmdImpl nimble port buf paramLen data) ↔
      (data ≠ 0 → port.HandsBack (hciCall port data (3 + paramLen.toNat + 1)) ∧
        port.free = port.freeAlign) := by
  simp only [bleTransportToLlCmdImpl]
  by_cases hData : data = 0
  · rw [if_pos hData]
    refine iff_of_true ?_ fun h => absurd hData h
    rw [ReleasedBoth, if_pos hData]
    exact List.Perm.refl _
  · rw [if_neg hData, transmit_released_iff hData]
    exact ⟨fun h _ => h, fun h => h hData⟩

/-- A chain that cannot be copied is released twice. -/
theorem aclReleased_iff (om pktlen data : Nat) (flat : Int) :
    ReleasedBoth port nimble.osMbufFreeChain om data
        (bleTransportToLlAclImpl nimble port om pktlen data flat) ↔
      (data ≠ 0 → flat = 0 ∧ port.HandsBack (hciCall port data (pktlen + 1)) ∧
        port.free = port.freeAlign) := by
  simp only [bleTransportToLlAclImpl]
  by_cases hData : data = 0
  · rw [if_pos hData]
    refine iff_of_true ?_ fun h => absurd hData h
    rw [ReleasedBoth, if_pos hData]
    exact List.Perm.refl _
  · rw [if_neg hData]
    by_cases hFlat : flat = 0
    · rw [if_neg (not_not.mpr hFlat), transmit_released_iff hData]
      exact ⟨fun h _ => ⟨hFlat, h⟩, fun h => (h hData).2⟩
    · rw [if_pos hFlat]
      refine iff_of_false (fun h => ?_) fun h => hFlat (h hData).1
      rw [ReleasedBoth, if_neg hData] at h
      have hThree : (3 : Nat) = 2 := h.length_eq
      exact absurd hThree (by decide)

end Released

/-- When the adapter is sound: a packet is not empty, an event that it looks into is as long as what
is read and NimBLE takes it; and where there is an aligned copy, the chain can be copied, the driver
hands the copy back, and `free` is also what `free_align` is. -/
theorem adapter_iff (evtSize : Nat) (env : RxEnv) (buf : Nat → UInt8) (bufLen : Nat)
    (nimble : Nimble) (port : Port) (om pktlen aclData : Nat) (flat : Int)
    (cmd : Nat) (paramLen : UInt8) (cmdData : Nat) :
    (Sound evtSize bufLen (hciRxHandler evtSize env buf bufLen) ∧
      ReleasedBoth port nimble.osMbufFreeChain om aclData
        (bleTransportToLlAclImpl nimble port om pktlen aclData flat) ∧
      ReleasedBoth port nimble.bleTransportFree cmd cmdData
        (bleTransportToLlCmdImpl nimble port cmd paramLen cmdData)) ↔
    (1 ≤ bufLen ∧ (buf 0 = hciH4Evt → EvtSound evtSize env buf bufLen)) ∧
      (aclData ≠ 0 → flat = 0 ∧ port.HandsBack (hciCall port aclData (pktlen + 1)) ∧
        port.free = port.freeAlign) ∧
      (cmdData ≠ 0 → port.HandsBack (hciCall port cmdData (3 + paramLen.toNat + 1)) ∧
        port.free = port.freeAlign) := by
  rw [hciRxHandler_sound_iff, aclReleased_iff, cmdReleased_iff]

/-- Of an event with three bytes that says it has ten parameters, bytes are read that were not
received. -/
theorem evt_readsBehind : ¬ ∀ (evtSize : Nat) (env : RxEnv) (buf : Nat → UInt8) (bufLen : Nat)
    (nimble : Nimble) (port : Port) (om pktlen aclData : Nat) (flat : Int)
    (cmd : Nat) (paramLen : UInt8) (cmdData : Nat),
    Sound evtSize bufLen (hciRxHandler evtSize env buf bufLen) ∧
      ReleasedBoth port nimble.osMbufFreeChain om aclData
        (bleTransportToLlAclImpl nimble port om pktlen aclData flat) ∧
      ReleasedBoth port nimble.bleTransportFree cmd cmdData
        (bleTransportToLlCmdImpl nimble port cmd paramLen cmdData) := by
  intro h
  let port := uartPort 1 1 ⟨true, true, true, 1, true, fun _ => true⟩
  have hWithin := (h 257 ⟨true, 0, true, 0, 0⟩ (fun i => if i = 2 then 10 else 4) 3
    ⟨2, 3⟩ port 1 0 0 0 1 0 0).1.within (.read 1 12) (by decide)
  exact absurd hWithin (by decide : ¬ 1 + 12 ≤ 3)

end EspHosted.Bt.NimbleAdapter
