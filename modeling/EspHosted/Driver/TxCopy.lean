import EspHosted.Driver.Channels

/-!
# The copy of a packet of the network interface

`transport_drv_sta_tx` and `transport_drv_ap_tx` copy a packet into a block of the memory pool,
behind the place of the header, and hand the block to `h_transmit`, which for SDIO is
`esp_hosted_tx`. The length is a `size_t` up to the copy and 16 bits wide behind it, and only
`esp_hosted_tx` compares it with the size of the block.

* `sound_iff`: a call is sound exactly if the packet fits the block or does not come as far as
  the copy.
-/

namespace EspHosted.Driver.TxCopy

open Channels (HErr espStaIf espApIf)

/-! ## Model -/

/-- `H_MAX_TRANSPORT_BUFFER_SIZE`, `ESP_TRANSPORT_MAX_BUF_SIZE` of the pool, and
`H_ESP_PAYLOAD_HEADER_OFFSET`. -/
structure Config where
  maxTransportBufferSize : Nat
  blockSize : Nat
  headerOffset : Nat
  offset_le : headerOffset ≤ maxTransportBufferSize
  max_lt : maxTransportBufferSize < 2 ^ 16

/-- `MAX_PAYLOAD_SIZE`. -/
def Config.maxPayloadSize (cfg : Config) : Nat := cfg.maxTransportBufferSize - cfg.headerOffset

/-- `interface_buffer_handle_t`, with the bytes of the block. -/
structure Handle where
  ifType : Nat
  payloadLen : Nat
  block : Nat
  payload : List UInt8

/-- The channels by what `api_chan` is, the free blocks of the pool, and the packets that wait to
be sent. -/
structure State where
  staChan : Option Nat
  apChan : Option Nat
  free : List Nat
  toSlaveQueue : List Handle

/-- `is_transport_tx_ready` at the start and in `esp_hosted_tx`, and `wifi_tx_throttling`. -/
structure Env where
  txReady : Bool
  throttling : Bool
  transportUp : Bool

/-- The arguments; a `NULL` buffer has no bytes, and `len` is the number of bytes otherwise. -/
structure Call where
  h : Nat
  buffer : Option (List UInt8)

def Call.len (c : Call) : Nat := (c.buffer.getD []).length

/-- The result, and the length that `h_transmit` was called with. -/
structure Outcome where
  ret : HErr
  transmitted : Option Nat
  state : State

/-- `hosted_mempool_alloc`; the block is cleared. -/
def mempoolAlloc (cfg : Config) (s : State) : Option (Nat × State) :=
  if cfg.blockSize < cfg.maxTransportBufferSize then none
  else
    match s.free with
    | [] => none
    | block :: rest => some (block, { s with free := rest })

/-- `h_memcpy` to an offset; there is no result if the bytes go beyond the block. -/
def memcpyAt (block : List UInt8) (offset : Nat) (bytes : List UInt8) : Option (List UInt8) :=
  if offset + bytes.length ≤ block.length then
    some (block.take offset ++ bytes ++ block.drop (offset + bytes.length))
  else none

/-- `esp_hosted_tx` of the SDIO driver. The callback puts the block back. -/
def espHostedTx (cfg : Config) (env : Env) (s : State) (handle : Handle) : HErr × State :=
  if handle.payloadLen = 0 ∨ cfg.maxPayloadSize < handle.payloadLen ∨ env.transportUp = false then
    (.fail, { s with free := handle.block :: s.free })
  else (.ok, { s with toSlaveQueue := s.toSlaveQueue ++ [handle] })

/-- What the two functions share; there is no outcome when memory behind the block is
overwritten. -/
def copyAndTransmit (cfg : Config) (ifType : Nat) (env : Env) (s : State) (bytes : List UInt8) :
    Option Outcome :=
  match mempoolAlloc cfg s with
  | none => some ⟨.busy, none, s⟩
  | some (block, s) =>
    (memcpyAt (List.replicate cfg.maxTransportBufferSize 0) cfg.headerOffset bytes).map
      fun payload =>
        let len := bytes.length % 2 ^ 16
        let (ret, s) := espHostedTx cfg env s ⟨ifType, len, block, payload⟩
        ⟨ret, some len, s⟩

/-- `transport_drv_sta_tx`. -/
def transportDrvStaTx (cfg : Config) (env : Env) (s : State) (c : Call) : Option Outcome :=
  match c.buffer with
  | none | some [] => some ⟨.ok, none, s⟩
  | some bytes =>
    match s.staChan with
    | none => some ⟨.busy, none, s⟩
    | some apiChan =>
      if env.txReady = false then some ⟨.busy, none, s⟩
      else if env.throttling then some ⟨.busy, none, s⟩
      else if c.h = 0 ∨ c.h ≠ apiChan then some ⟨.fail, none, s⟩
      else copyAndTransmit cfg espStaIf env s bytes

/-- `transport_drv_ap_tx`, which does not look at `wifi_tx_throttling`. -/
def transportDrvApTx (cfg : Config) (env : Env) (s : State) (c : Call) : Option Outcome :=
  match c.buffer with
  | none | some [] => some ⟨.ok, none, s⟩
  | some bytes =>
    match s.apChan with
    | none => some ⟨.busy, none, s⟩
    | some apiChan =>
      if env.txReady = false then some ⟨.busy, none, s⟩
      else if c.h = 0 ∨ c.h ≠ apiChan then some ⟨.fail, none, s⟩
      else copyAndTransmit cfg espApIf env s bytes

inductive Interface
  | sta
  | ap

def Interface.chan (s : State) : Interface → Option Nat
  | .sta => s.staChan
  | .ap => s.apChan

def Interface.tx (cfg : Config) (env : Env) (s : State) (c : Call) : Interface → Option Outcome
  | .sta => transportDrvStaTx cfg env s c
  | .ap => transportDrvApTx cfg env s c

/-! ## Soundness -/

/-- Nothing behind the block is written, `h_transmit` gets the length of the packet, a packet that
does not fit is not transmitted, and a call that fails keeps no block. -/
structure Sound (cfg : Config) (s : State) (c : Call) (o : Option Outcome) : Prop where
  within : o.isSome = true
  len : ∀ r ∈ o, ∀ n ∈ r.transmitted, n = c.len
  fits : ∀ r ∈ o, cfg.maxPayloadSize < c.len → r.transmitted = none
  kept : ∀ r ∈ o, r.ret ≠ .ok → r.state = s

/-- The call comes as far as the copy: a packet, a channel that is ready, its handle, and a free
block. -/
structure Copies (cfg : Config) (env : Env) (s : State) (c : Call) (i : Interface) : Prop where
  len : 0 < c.len
  ready : env.txReady = true
  running : i = .sta → env.throttling = false
  handle : c.h ≠ 0 ∧ i.chan s = some c.h
  block : cfg.maxTransportBufferSize ≤ cfg.blockSize ∧ s.free ≠ []

variable {cfg : Config} {env : Env} {s : State} {c : Call} {i : Interface}

theorem espHostedTx_kept {handle : Handle} (h : (espHostedTx cfg env s handle).1 ≠ .ok) :
    (espHostedTx cfg env s handle).2 = { s with free := handle.block :: s.free } := by
  unfold espHostedTx at h ⊢
  split
  · rfl
  · rename_i hSent
    rw [if_neg hSent] at h
    exact absurd rfl h

/-- A call that does not come as far as the copy is sound. -/
theorem sound_of_untouched {ret : HErr} : Sound cfg s c (some ⟨ret, none, s⟩) := by
  refine ⟨rfl, fun r hr n hn => ?_, fun r hr _ => ?_, fun r hr _ => ?_⟩
  · cases hr
    cases hn
  · cases hr
    rfl
  · cases hr
    rfl

theorem mempoolAlloc_eq_none (h : mempoolAlloc cfg s = none) :
    ¬ (cfg.maxTransportBufferSize ≤ cfg.blockSize ∧ s.free ≠ []) := by
  unfold mempoolAlloc at h
  rintro ⟨hSize, hFree⟩
  rw [if_neg (Nat.not_lt.mpr hSize)] at h
  split at h
  · rename_i hNil
    exact hFree hNil
  · cases h

theorem mempoolAlloc_eq_some {block : Nat} {t : State} (h : mempoolAlloc cfg s = some (block, t)) :
    (cfg.maxTransportBufferSize ≤ cfg.blockSize ∧ s.free ≠ []) ∧
      { t with free := block :: t.free } = s := by
  unfold mempoolAlloc at h
  split at h
  · cases h
  · rename_i hSize
    split at h
    · cases h
    · rename_i b rest hFree
      cases h
      refine ⟨⟨Nat.not_lt.mp hSize, hFree ▸ List.cons_ne_nil _ _⟩, ?_⟩
      simp only [← hFree]

/-- The copy stays in the block exactly if the packet has at most `MAX_PAYLOAD_SIZE` bytes, and
then the length is not cut. -/
theorem copyAndTransmit_sound_iff (ifType : Nat) {bytes : List UInt8}
    (hBuffer : c.buffer = some bytes) : Sound cfg s c (copyAndTransmit cfg ifType env s bytes) ↔
      (cfg.maxTransportBufferSize ≤ cfg.blockSize ∧ s.free ≠ [] → c.len ≤ cfg.maxPayloadSize) := by
  have hLen : c.len = bytes.length := by
    rw [Call.len, hBuffer]
    rfl
  have hOffset := cfg.offset_le
  have hMax := cfg.max_lt
  unfold copyAndTransmit
  split
  · rename_i hAlloc
    exact ⟨fun _ h => absurd h (mempoolAlloc_eq_none hAlloc), fun _ => sound_of_untouched⟩
  · rename_i block t hAlloc
    obtain ⟨hBlock, hBack⟩ := mempoolAlloc_eq_some hAlloc
    rw [forall_prop_of_true hBlock, memcpyAt, List.length_replicate, hLen, Config.maxPayloadSize]
    constructor
    · intro h
      have hSome := h.within
      split at hSome
      · omega
      · cases hSome
    · intro hFits
      rw [if_pos (by omega)]
      refine ⟨rfl, fun r hr n hn => ?_, fun r hr hLong => ?_, fun r hr hFail => ?_⟩
      · cases hr
        cases hn
        rw [hLen]
        exact Nat.mod_eq_of_lt (by omega)
      · rw [hLen, Config.maxPayloadSize] at hLong
        omega
      · cases hr
        exact (espHostedTx_kept hFail).trans hBack

/-- The checks that both functions make before the copy. -/
theorem copies_iff (hLen : 0 < c.len) (hReady : env.txReady = true)
    (hRunning : i = .sta → env.throttling = false) {apiChan : Nat} (hChan : i.chan s = some apiChan)
    (hHandle : ¬ (c.h = 0 ∨ c.h ≠ apiChan)) :
    Copies cfg env s c i ↔ cfg.maxTransportBufferSize ≤ cfg.blockSize ∧ s.free ≠ [] := by
  rw [not_or, not_not] at hHandle
  exact ⟨fun h => h.block, fun h =>
    ⟨hLen, hReady, hRunning, ⟨hHandle.1, hHandle.2 ▸ hChan⟩, h⟩⟩

theorem not_copies_of_handle {apiChan : Nat} (hChan : i.chan s = some apiChan)
    (hHandle : c.h = 0 ∨ c.h ≠ apiChan) : ¬ Copies cfg env s c i := by
  intro h
  have hSame := h.handle.2.symm.trans hChan
  rcases hHandle with hZero | hOther
  · exact h.handle.1 hZero
  · exact hOther (Option.some.inj hSame)

theorem not_copies_of_empty (hBuffer : c.buffer = none ∨ c.buffer = some []) :
    ¬ Copies cfg env s c i := by
  intro h
  have hLen := h.len
  rw [Call.len] at hLen
  rcases hBuffer with hNone | hNil
  · rw [hNone] at hLen
    exact Nat.lt_irrefl 0 hLen
  · rw [hNil] at hLen
    exact Nat.lt_irrefl 0 hLen

theorem len_pos {bytes : List UInt8} (hBuffer : c.buffer = some bytes) (hNil : bytes ≠ []) :
    0 < c.len := by
  rw [Call.len, hBuffer]
  exact List.length_pos_iff.mpr hNil

/-- The exits before the copy, and the copy. -/
theorem tx_cases (cfg : Config) (env : Env) (s : State) (c : Call) (i : Interface) :
    ((∃ ret, i.tx cfg env s c = some ⟨ret, none, s⟩) ∧ ¬ Copies cfg env s c i) ∨
    ∃ bytes ifType, c.buffer = some bytes ∧
      i.tx cfg env s c = copyAndTransmit cfg ifType env s bytes ∧
      (Copies cfg env s c i ↔ cfg.maxTransportBufferSize ≤ cfg.blockSize ∧ s.free ≠ []) := by
  cases i with
  | sta =>
    simp only [Interface.tx, transportDrvStaTx]
    split
    · rename_i hBuffer
      exact Or.inl ⟨⟨_, rfl⟩, not_copies_of_empty (Or.inl hBuffer)⟩
    · rename_i hBuffer
      exact Or.inl ⟨⟨_, rfl⟩, not_copies_of_empty (Or.inr hBuffer)⟩
    rename_i bytes hNil hBuffer
    split
    · rename_i hChan
      exact Or.inl ⟨⟨_, rfl⟩, fun h =>
        Option.some_ne_none _ (h.handle.2.symm.trans hChan)⟩
    rename_i apiChan hChan
    split
    · rename_i hReady
      exact Or.inl ⟨⟨_, rfl⟩, fun h => Bool.noConfusion (hReady.symm.trans h.ready)⟩
    rename_i hReady
    split
    · rename_i hThrottling
      exact Or.inl ⟨⟨_, rfl⟩, fun h => Bool.noConfusion (hThrottling.symm.trans (h.running rfl))⟩
    rename_i hThrottling
    split
    · rename_i hHandle
      exact Or.inl ⟨⟨_, rfl⟩, not_copies_of_handle hChan hHandle⟩
    rename_i hHandle
    rw [Bool.not_eq_false] at hReady
    rw [Bool.not_eq_true] at hThrottling
    exact Or.inr ⟨bytes, espStaIf, hBuffer, rfl,
      copies_iff (len_pos hBuffer hNil) hReady (fun _ => hThrottling) hChan hHandle⟩
  | ap =>
    simp only [Interface.tx, transportDrvApTx]
    split
    · rename_i hBuffer
      exact Or.inl ⟨⟨_, rfl⟩, not_copies_of_empty (Or.inl hBuffer)⟩
    · rename_i hBuffer
      exact Or.inl ⟨⟨_, rfl⟩, not_copies_of_empty (Or.inr hBuffer)⟩
    rename_i bytes hNil hBuffer
    split
    · rename_i hChan
      exact Or.inl ⟨⟨_, rfl⟩, fun h =>
        Option.some_ne_none _ (h.handle.2.symm.trans hChan)⟩
    rename_i apiChan hChan
    split
    · rename_i hReady
      exact Or.inl ⟨⟨_, rfl⟩, fun h => Bool.noConfusion (hReady.symm.trans h.ready)⟩
    rename_i hReady
    split
    · rename_i hHandle
      exact Or.inl ⟨⟨_, rfl⟩, not_copies_of_handle hChan hHandle⟩
    rename_i hHandle
    rw [Bool.not_eq_false] at hReady
    exact Or.inr ⟨bytes, espApIf, hBuffer, rfl,
      copies_iff (len_pos hBuffer hNil) hReady nofun hChan hHandle⟩

theorem sound_iff (cfg : Config) (env : Env) (s : State) (c : Call) (i : Interface) :
    Sound cfg s c (i.tx cfg env s c) ↔ (Copies cfg env s c i → c.len ≤ cfg.maxPayloadSize) := by
  rcases tx_cases cfg env s c i with ⟨⟨ret, hEq⟩, hNot⟩ | ⟨bytes, ifType, hBuffer, hEq, hCopies⟩
  · rw [hEq]
    exact ⟨fun _ h => absurd h hNot, fun _ => sound_of_untouched⟩
  · rw [hEq, copyAndTransmit_sound_iff ifType hBuffer, hCopies]

/-- The sizes of the SDIO transport. -/
def sdioConfig : Config :=
  { maxTransportBufferSize := 1536, blockSize := 1536, headerOffset := 12, offset_le := by decide,
    max_lt := by decide }

def readyEnv : Env := { txReady := true, throttling := false, transportUp := true }

def readyState : State := { staChan := some 5, apChan := none, free := [0], toSlaveQueue := [] }

/-- A packet of 1600 bytes is written beyond the end of its block, although its length is a valid
`uint16_t`. -/
theorem copy_overruns : ∃ c : Call, c.len = 1600 ∧
    transportDrvStaTx sdioConfig readyEnv readyState c = none ∧
    ¬ Sound sdioConfig readyState c (transportDrvStaTx sdioConfig readyEnv readyState c) := by
  have hNone : ∀ bytes : List UInt8, bytes.length = 1600 →
      transportDrvStaTx sdioConfig readyEnv readyState ⟨5, some bytes⟩ = none := by
    intro bytes hLen
    cases bytes with
    | nil => cases hLen
    | cons b bytes =>
      have hLong : memcpyAt (List.replicate 1536 0) 12 (b :: bytes) = none := by
        rw [memcpyAt, if_neg (by rw [hLen, List.length_replicate]; omega)]
      calc transportDrvStaTx sdioConfig readyEnv readyState ⟨5, some (b :: bytes)⟩
          = copyAndTransmit sdioConfig espStaIf readyEnv readyState (b :: bytes) := rfl
        _ = none := by
          rw [copyAndTransmit, show mempoolAlloc sdioConfig readyState =
            some (0, { readyState with free := [] }) from rfl]
          simp only [sdioConfig, hLong, Option.map_none]
  have hEq := hNone (List.replicate 1600 0) List.length_replicate
  refine ⟨⟨5, some (List.replicate 1600 0)⟩, List.length_replicate, hEq, fun h => ?_⟩
  have hWithin := h.within
  rw [hEq] at hWithin
  exact Bool.noConfusion hWithin

end EspHosted.Driver.TxCopy
