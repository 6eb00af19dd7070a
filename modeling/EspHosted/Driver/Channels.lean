import EspHosted.Lib.Machine
import EspHosted.Lib.Slots

/-!
# Channels and their common memory pool

`chan_arr` has one channel for each interface. All channels share one memory pool, which is
counted by `ref_count_mempool`: adding a channel creates the pool if the count is 0, and
removing one only counts down, since `transport_drv_common_mempool_destroy` frees nothing. A
transmitted buffer comes from the pool of its channel and is freed later, by a callback that
looks the pool up in `chan_arr` again.

* `refCount_eq`: the count is the number of channels that hold the common pool, in every run;
* `pools_kept`: there is one pool and every buffer goes back to it, in the runs that create a
  pool only while there is none and complete a transmission only while its interface has a
  channel.
-/

namespace EspHosted.Driver.Channels

open Machine

/-! ## Model -/

def espStaIf : Nat := 1
def espApIf : Nat := 2
def espSerialIf : Nat := 3
def espMaxIf : Nat := 8

/-- The interfaces that `transport_drv_add_channel` has a tx function for. -/
def hasTxFn (ifType : Nat) : Prop :=
  ifType = espStaIf ∨ ifType = espApIf ∨ ifType = espSerialIf

instance (ifType : Nat) : Decidable (hasTxFn ifType) :=
  inferInstanceAs (Decidable (_ ∨ _ ∨ _))

/-- `transport_channel_t`, with its address; a pool is known by its number. -/
structure Channel where
  addr : Nat
  apiChan : Nat
  ifType : Nat
  memp : Option Nat

/-- What the caller gets for a channel: its address and the interface written there. -/
structure Handle where
  addr : Nat
  ifType : Nat
  deriving DecidableEq

/-- A buffer that is being transmitted, with the pool that it comes from. -/
structure Buffer where
  ifType : Nat
  origin : Nat

inductive HErr
  | ok
  | fail
  | busy
  deriving DecidableEq

/-- `pools` counts the pools that were created; none of them is ever destroyed. `returned` has
the pool that each buffer was freed to, and `none` if there was none to free it to. -/
structure State where
  chanArr : List (Option Channel)
  refCountMempool : Int
  mempoolCommon : Option Nat
  pools : Nat
  nextAddr : Nat
  handles : List Handle
  inFlight : List Buffer
  returned : List (Buffer × Option Nat)

def init : State :=
  { chanArr := List.replicate espMaxIf none, refCountMempool := 0,
    mempoolCommon := none, pools := 0,
    nextAddr := 1, handles := [], inFlight := [], returned := [] }

/-- `chan_arr[if_type]`. -/
def State.chan (s : State) (ifType : Nat) : Option Channel := (s.chanArr[ifType]?).join

/-- `transport_drv_common_mempool_destroy`. -/
def commonMempoolDestroy (s : State) : State :=
  { s with refCountMempool := s.refCountMempool - 1 }

/-- `transport_drv_common_mempool_create`; `createOk` is the answer of
`hosted_mempool_create`. -/
def commonMempoolCreate (s : State) (createOk : Bool) : Option Nat × State :=
  if s.refCountMempool = 0 then
    if createOk then
      (some s.pools, { s with mempoolCommon := some s.pools, pools := s.pools + 1,
                              refCountMempool := s.refCountMempool + 1 })
    else (none, { s with mempoolCommon := none })
  else (s.mempoolCommon, { s with refCountMempool := s.refCountMempool + 1 })

/-- The channel that `transport_drv_add_channel` finds in its slot is freed. -/
def dropReplaced (s : State) (ifType : Nat) : State :=
  match s.chan ifType with
  | none => s
  | some c =>
    let s := if c.memp.isSome then commonMempoolDestroy s else s
    { s with chanArr := s.chanArr.set ifType none }

/-- The arguments of `transport_drv_add_channel`, and the answers of `h_calloc` and of
`hosted_mempool_create`. -/
structure AddArgs where
  apiChan : Nat
  ifType : Nat
  hasTx : Bool
  hasRx : Bool
  callocOk : Bool
  createOk : Bool

def transportDrvAddChannel (s : State) (a : AddArgs) : Option Handle × State :=
  if espMaxIf ≤ a.ifType then (none, s)
  else if a.hasTx = false ∨ a.hasRx = false then (none, s)
  else
    let s := dropReplaced s a.ifType
    if a.callocOk = false then (none, s)
    else
      let addr := s.nextAddr
      let s := { s with nextAddr := s.nextAddr + 1 }
      if ¬ hasTxFn a.ifType then
        let channel : Channel := { addr, apiChan := 0, ifType := 0, memp := none }
        (none, { s with chanArr := s.chanArr.set a.ifType (some channel) })
      else
        match commonMempoolCreate s a.createOk with
        | (none, s) => (none, { s with chanArr := s.chanArr.set a.ifType none })
        | (some pool, s) =>
          let channel : Channel :=
            { addr, apiChan := a.apiChan, ifType := a.ifType, memp := some pool }
          (some { addr, ifType := a.ifType },
            { s with chanArr := s.chanArr.set a.ifType (some channel) })

def transportDrvRemoveChannel (s : State) (h : Handle) : HErr × State :=
  match s.chan h.ifType with
  | none => (.fail, s)
  | some c =>
    if c.addr ≠ h.addr then (.fail, s)
    else
      let s := commonMempoolDestroy s
      (.ok, { s with chanArr := s.chanArr.set h.ifType none })

/-- The arguments of `transport_drv_sta_tx` and `transport_drv_ap_tx`, and what the
surroundings answer: whether the transport is ready, whether the slave throttles, whether the
pool has a block, and what `esp_hosted_tx` returns. -/
structure TxArgs where
  h : Nat
  hasBuffer : Bool
  txReady : Bool
  throttling : Bool
  allocOk : Bool
  sent : HErr

/-- What the two functions share: a copy of the packet is transmitted. -/
def copyAndTransmit (ifType : Nat) (c : Channel) (s : State) (a : TxArgs) : HErr × State :=
  if a.h = 0 ∨ a.h ≠ c.apiChan then (.fail, s)
  else
    match c.memp with
    | none => (.busy, s)
    | some pool =>
      if a.allocOk = false then (.busy, s)
      else (a.sent, { s with inFlight := s.inFlight ++ [{ ifType, origin := pool }] })

def transportDrvStaTx (s : State) (a : TxArgs) : HErr × State :=
  if a.hasBuffer = false then (.ok, s)
  else
    match s.chan espStaIf with
    | none => (.busy, s)
    | some c =>
      if a.txReady = false then (.busy, s)
      else if a.throttling = true then (.busy, s)
      else copyAndTransmit espStaIf c s a

/-- `transport_drv_ap_tx`, which does not look at `wifi_tx_throttling`. -/
def transportDrvApTx (s : State) (a : TxArgs) : HErr × State :=
  if a.hasBuffer = false then (.ok, s)
  else
    match s.chan espApIf with
    | none => (.busy, s)
    | some c =>
      if a.txReady = false then (.busy, s)
      else copyAndTransmit espApIf c s a

/-- `transport_sta_free_cb` and `transport_ap_free_cb`, which differ in the interface. -/
def transportFreeCb (s : State) (b : Buffer) : State :=
  { s with returned := s.returned ++ [(b, (s.chan b.ifType).bind (·.memp))] }

/-- One call. A handle is one that the caller got; a transmission is completed by the tx task
of the driver, or in `esp_hosted_tx` already. -/
inductive Action
  | addChannel (a : AddArgs)
  | removeChannel (h : Handle)
  | staTx (a : TxArgs)
  | apTx (a : TxArgs)
  | complete (i : Nat)

def step (s : State) : Action → Option State
  | .addChannel a =>
    let (handle, s) := transportDrvAddChannel s a
    some { s with handles := s.handles ++ handle.toList }
  | .removeChannel h => if h ∈ s.handles then some (transportDrvRemoveChannel s h).2 else none
  | .staTx a => some (transportDrvStaTx s a).2
  | .apTx a => some (transportDrvApTx s a).2
  | .complete i =>
    (s.inFlight[i]?).map fun b => transportFreeCb { s with inFlight := s.inFlight.eraseIdx i } b

/-! ## What is kept -/

/-- The channel holds the common pool. -/
def holdsCommon (s : State) (c : Option Channel) : Bool :=
  c.any fun c => c.memp.isSome && c.memp == s.mempoolCommon

structure PoolsKept (s : State) : Prop where
  returned : ∀ r ∈ s.returned, r.2 = some r.1.origin
  refCount : s.refCountMempool = s.chanArr.countP (holdsCommon s)
  onePool : s.pools ≤ 1

/-- `transport_drv_add_channel` comes to create a pool, and gets it. -/
def CreatesPool (s : State) (a : AddArgs) : Prop :=
  a.ifType < espMaxIf ∧ a.hasTx = true ∧ a.hasRx = true ∧ a.callocOk = true ∧ hasTxFn a.ifType ∧
    (dropReplaced s a.ifType).refCountMempool = 0 ∧ a.createOk = true

instance (s : State) (a : AddArgs) : Decidable (CreatesPool s a) :=
  inferInstanceAs (Decidable (_ ∧ _ ∧ _ ∧ _ ∧ _ ∧ _ ∧ _))

/-- A pool is created only while there is none, and a transmission is completed only while its
interface has a channel. -/
def Steady (s : State) : Action → Prop
  | .addChannel a => CreatesPool s a → s.pools = 0
  | .complete i => ∀ b ∈ s.inFlight[i]?, (s.chan b.ifType).isSome = true
  | _ => True

instance (s : State) (a : Action) : Decidable (Steady s a) := by
  cases a using Action.casesOn <;> unfold Steady <;> infer_instance

/-! ## The count -/

/-- The channel holds a pool. -/
def holds (c : Option Channel) : Bool := c.any (·.memp.isSome)

/-- Only the channels of the supported interfaces hold a pool, it is the common one, and the
count is the number of those that do. -/
structure Counted (s : State) : Prop where
  size : s.chanArr.length = espMaxIf
  refCount : s.refCountMempool = s.chanArr.countP holds
  common : ∀ i c p, s.chan i = some c → c.memp = some p → s.mempoolCommon = some p
  memp : ∀ i c, s.chan i = some c → hasTxFn i → c.memp.isSome = true
  handles : ∀ h ∈ s.handles, hasTxFn h.ifType

section Counting

variable {s s' : State}

theorem chan_set {i j : Nat} {c : Option Channel} (hi : i < s.chanArr.length) :
    ({ s with chanArr := s.chanArr.set i c }).chan j = if j = i then c else s.chan j := by
  unfold State.chan
  rw [List.getElem?_set]
  by_cases hEq : i = j
  · rw [if_pos hEq, if_pos hi, if_pos hEq.symm]
    rfl
  · rw [if_neg hEq, if_neg (Ne.symm hEq)]

theorem getElem?_chan {i : Nat} (hi : i < s.chanArr.length) : s.chanArr[i]? = some (s.chan i) := by
  unfold State.chan
  rw [List.getElem?_eq_getElem hi]
  rfl

/-- A slot is emptied, and the count goes down if it held a pool. -/
theorem Counted.clear (h : Counted s) {i : Nat} (hi : i < espMaxIf) {n : Int}
    (hCount : n + (if holds (s.chan i) then 1 else 0) = s.refCountMempool) :
    Counted { s with chanArr := s.chanArr.set i none, refCountMempool := n } := by
  have hi' : i < s.chanArr.length := h.size ▸ hi
  have hSet := Slots.countP_set_add (b := none) holds (getElem?_chan hi')
  have hChan : ∀ j c, ({ s with chanArr := s.chanArr.set i none }).chan j = some c →
      s.chan j = some c := by
    intro j c hc
    rw [chan_set hi'] at hc
    split at hc
    · cases hc
    · exact hc
  refine ⟨?_, ?_, fun j c p hc => h.common j c p (hChan j c hc),
    fun j c hc => h.memp j c (hChan j c hc), h.handles⟩
  · show (s.chanArr.set i none).length = espMaxIf
    rw [List.length_set, h.size]
  · show n = (s.chanArr.set i none).countP holds
    have hRef := h.refCount
    have hNone : holds none = false := rfl
    cases hHolds : holds (s.chan i) with
    | true =>
      simp only [hHolds, hNone, if_true, Bool.false_eq_true, if_false] at hSet hCount
      omega
    | false =>
      simp only [hHolds, hNone, Bool.false_eq_true, if_false] at hSet hCount
      omega

/-- The count is 0 only if no channel holds a pool. -/
theorem Counted.not_holds (h : Counted s) (hZero : s.refCountMempool = 0) {i : Nat} {c : Channel}
    (hc : s.chan i = some c) : c.memp = none := by
  have hRef := h.refCount
  have hNone : s.chanArr.countP holds = 0 := by omega
  have hMem : s.chan i ∈ s.chanArr := by
    unfold State.chan at hc ⊢
    cases hGet : s.chanArr[i]? with
    | none => rw [hGet] at hc; cases hc
    | some o => exact List.mem_of_getElem? hGet
  have hNot := List.countP_eq_zero.mp hNone _ hMem
  rw [hc] at hNot
  simpa [holds] using hNot

/-- An empty slot is filled; a channel with a pool counts. -/
theorem Counted.fill (h : Counted s) {i : Nat} (hi : i < espMaxIf) (hEmpty : s.chan i = none)
    {c : Channel} (common : Option Nat) {n : Int}
    (hCount : n = s.refCountMempool + if c.memp.isSome then 1 else 0)
    (hCommon : ∀ p, c.memp = some p → common = some p)
    (hOthers : common = s.mempoolCommon ∨ s.refCountMempool = 0)
    (hMemp : hasTxFn i → c.memp.isSome = true) :
    Counted { s with chanArr := s.chanArr.set i (some c), mempoolCommon := common,
                     refCountMempool := n } := by
  have hi' : i < s.chanArr.length := h.size ▸ hi
  have hSet := Slots.countP_set_add (b := some c) holds (getElem?_chan hi')
  have hChan : ∀ j d, ({ s with chanArr := s.chanArr.set i (some c) }).chan j = some d →
      (j = i ∧ d = c) ∨ s.chan j = some d := by
    intro j d hd
    rw [chan_set hi'] at hd
    split at hd
    · rename_i hEq
      cases hd
      exact Or.inl ⟨hEq, rfl⟩
    · exact Or.inr hd
  refine ⟨?_, ?_, ?_, ?_, h.handles⟩
  · show (s.chanArr.set i (some c)).length = espMaxIf
    rw [List.length_set, h.size]
  · show n = (s.chanArr.set i (some c)).countP holds
    have hRef := h.refCount
    have hSome : holds (some c) = c.memp.isSome := rfl
    have hNone : holds none = false := rfl
    rw [hEmpty, hNone, hSome] at hSet
    simp only [Bool.false_eq_true, if_false] at hSet
    split at hCount
    · simp only [*, if_true] at hSet
      omega
    · simp only [*, Bool.false_eq_true, if_false] at hSet
      omega
  · intro j d p hd hp
    rcases hChan j d hd with ⟨-, rfl⟩ | hOld
    · exact hCommon p hp
    · rcases hOthers with hSame | hZero
      · exact hSame.trans (h.common j d p hOld hp)
      · rw [h.not_holds hZero hOld] at hp
        cases hp
  · intro j d hd hTx
    rcases hChan j d hd with ⟨rfl, rfl⟩ | hOld
    · exact hMemp hTx
    · exact h.memp j d hOld hTx

theorem dropReplaced_counted (h : Counted s) {i : Nat} (hi : i < espMaxIf) :
    Counted (dropReplaced s i) ∧ (dropReplaced s i).chan i = none := by
  unfold dropReplaced
  have hi' : i < s.chanArr.length := h.size ▸ hi
  split
  · rename_i hNone
    exact ⟨h, hNone⟩
  · rename_i c hc
    have hHolds : holds (s.chan i) = c.memp.isSome := by
      rw [hc]
      rfl
    cases hMemp : c.memp.isSome with
    | true =>
      refine ⟨h.clear hi (n := s.refCountMempool - 1) ?_, ?_⟩
      · rw [hHolds, hMemp, if_pos rfl]
        omega
      · exact (chan_set (s := commonMempoolDestroy s) hi').trans (if_pos rfl)
    | false =>
      refine ⟨h.clear hi (n := s.refCountMempool) ?_, ?_⟩
      · rw [hHolds, hMemp]
        simp
      · exact (chan_set hi').trans (if_pos rfl)

theorem Counted.noPool (h : Counted s) (hZero : s.refCountMempool = 0) :
    Counted { s with mempoolCommon := none } := by
  refine { h with common := fun i c p hc hp => ?_ }
  rw [h.not_holds hZero hc] at hp
  cases hp

/-- A count other than 0 stands for a pool. -/
theorem Counted.exists_common (h : Counted s) (hSome : s.refCountMempool ≠ 0) :
    ∃ pool, s.mempoolCommon = some pool := by
  have hRef := h.refCount
  have hPos : 0 < s.chanArr.countP holds := by omega
  obtain ⟨o, hMem, hHolds⟩ := List.countP_pos_iff.mp hPos
  obtain ⟨i, hi⟩ := List.mem_iff_getElem?.mp hMem
  cases o with
  | none => cases hHolds
  | some c =>
    obtain ⟨pool, hPool⟩ := Option.isSome_iff_exists.mp hHolds
    refine ⟨pool, h.common i c pool ?_ hPool⟩
    rw [State.chan, hi]
    rfl

/-- The pool is there or is created; that fails only while no channel holds one. -/
theorem commonMempoolCreate_cases (h : Counted s) (createOk : Bool) :
    (commonMempoolCreate s createOk = (none, { s with mempoolCommon := none }) ∧
      s.refCountMempool = 0) ∨
    ∃ pool pools, commonMempoolCreate s createOk =
        (some pool, { s with mempoolCommon := some pool, pools := pools,
                             refCountMempool := s.refCountMempool + 1 }) ∧
      ((s.mempoolCommon = some pool ∧ pools = s.pools) ∨
        (s.refCountMempool = 0 ∧ createOk = true ∧ pool = s.pools ∧ pools = s.pools + 1)) := by
  unfold commonMempoolCreate
  split
  · rename_i hZero
    split
    · rename_i hOk
      exact Or.inr ⟨s.pools, s.pools + 1, rfl, Or.inr ⟨hZero, hOk, rfl, rfl⟩⟩
    · exact Or.inl ⟨rfl, hZero⟩
  · rename_i hSome
    obtain ⟨pool, hPool⟩ := h.exists_common hSome
    refine Or.inr ⟨pool, s.pools, ?_, Or.inl ⟨hPool, rfl⟩⟩
    rw [← hPool]

theorem addChannel_counted (h : Counted s) (a : AddArgs) :
    Counted (transportDrvAddChannel s a).2 ∧
      ∀ hd ∈ (transportDrvAddChannel s a).1, hasTxFn hd.ifType := by
  unfold transportDrvAddChannel
  split
  · exact ⟨h, nofun⟩
  · rename_i hIf
    have hi : a.ifType < espMaxIf := by omega
    obtain ⟨hDropped, hEmpty⟩ := dropReplaced_counted h hi
    split
    · exact ⟨h, nofun⟩
    · simp only
      split
      · exact ⟨hDropped, nofun⟩
      · split
        · rename_i hUnsupported
          have hFilled := hDropped.fill hi hEmpty (dropReplaced s a.ifType).mempoolCommon
            (c := { addr := (dropReplaced s a.ifType).nextAddr, apiChan := 0, ifType := 0,
                    memp := none })
            (n := (dropReplaced s a.ifType).refCountMempool) (by simp) nofun (Or.inl rfl)
            fun hTx => absurd hTx hUnsupported
          exact ⟨{ hFilled with }, nofun⟩
        · rename_i hTx
          have hTx : hasTxFn a.ifType := Decidable.of_not_not hTx
          have hFresh : Counted { dropReplaced s a.ifType with
              nextAddr := (dropReplaced s a.ifType).nextAddr + 1 } := { hDropped with }
          rcases commonMempoolCreate_cases hFresh a.createOk with
            ⟨hEq, hZero⟩ | ⟨pool, pools, hEq, hPool⟩
          · rw [hEq]
            have hNone : holds ((dropReplaced s a.ifType).chan a.ifType) = false := by
              rw [hEmpty]
              rfl
            have hCleared := (hFresh.noPool hZero).clear hi
              (n := (dropReplaced s a.ifType).refCountMempool) (by
                show _ + (if holds ((dropReplaced s a.ifType).chan a.ifType) then 1 else 0) = _
                simp [hNone])
            exact ⟨hCleared, nofun⟩
          · rw [hEq]
            have hFilled := hFresh.fill hi hEmpty (some pool)
              (c := { addr := (dropReplaced s a.ifType).nextAddr, apiChan := a.apiChan,
                      ifType := a.ifType, memp := some pool })
              (n := (dropReplaced s a.ifType).refCountMempool + 1) (by simp)
              (fun p hp => hp) ?_ fun _ => rfl
            · refine ⟨{ hFilled with }, fun hd hMem => ?_⟩
              cases hMem
              exact hTx
            · rcases hPool with ⟨hOld, -⟩ | ⟨hZero, -⟩
              · exact Or.inl hOld.symm
              · exact Or.inr hZero

theorem removeChannel_counted (h : Counted s) (hd : Handle) (hTx : hasTxFn hd.ifType) :
    Counted (transportDrvRemoveChannel s hd).2 := by
  unfold transportDrvRemoveChannel
  split
  · exact h
  · rename_i c hc
    split
    · exact h
    · have hi : hd.ifType < espMaxIf := by
        unfold espMaxIf
        unfold hasTxFn espStaIf espApIf espSerialIf at hTx
        omega
      refine h.clear hi (n := s.refCountMempool - 1) ?_
      have hHolds : holds (s.chan hd.ifType) = true := by
        rw [hc]
        exact h.memp _ _ hc hTx
      rw [hHolds, if_pos rfl]
      omega

/-- A transmission changes nothing but what is in flight. -/
def Sent (ifType : Nat) (s s' : State) : Prop :=
  s' = s ∨ ∃ c pool, s.chan ifType = some c ∧ c.memp = some pool ∧
    s' = { s with inFlight := s.inFlight ++ [{ ifType, origin := pool }] }

theorem copyAndTransmit_sent {ifType : Nat} {c : Channel} (hc : s.chan ifType = some c)
    (a : TxArgs) : Sent ifType s (copyAndTransmit ifType c s a).2 := by
  unfold copyAndTransmit
  split
  · exact Or.inl rfl
  split
  · exact Or.inl rfl
  rename_i pool hPool
  split
  · exact Or.inl rfl
  · exact Or.inr ⟨c, pool, hc, hPool, rfl⟩

theorem transportDrvStaTx_sent (s : State) (a : TxArgs) :
    Sent espStaIf s (transportDrvStaTx s a).2 := by
  unfold transportDrvStaTx
  split
  · exact Or.inl rfl
  split
  · exact Or.inl rfl
  rename_i c hc
  split
  · exact Or.inl rfl
  split
  · exact Or.inl rfl
  · exact copyAndTransmit_sent hc a

theorem transportDrvApTx_sent (s : State) (a : TxArgs) :
    Sent espApIf s (transportDrvApTx s a).2 := by
  unfold transportDrvApTx
  split
  · exact Or.inl rfl
  split
  · exact Or.inl rfl
  rename_i c hc
  split
  · exact Or.inl rfl
  · exact copyAndTransmit_sent hc a

theorem Sent.keeps_counted {ifType : Nat} (hSent : Sent ifType s s') (h : Counted s) :
    Counted s' := by
  rcases hSent with rfl | ⟨c, pool, -, -, rfl⟩
  · exact h
  · exact { h with }

theorem step_counted (h : Counted s) {a : Action} (hStep : step s a = some s') : Counted s' := by
  cases a with
  | addChannel a =>
    cases hStep
    obtain ⟨hAdded, hHandle⟩ := addChannel_counted h a
    refine { hAdded with handles := fun hd hMem => ?_ }
    rcases List.mem_append.mp hMem with hOld | hNew
    · exact hAdded.handles hd hOld
    · exact hHandle hd (Option.mem_toList.mp hNew)
  | removeChannel hd =>
    simp only [step, Option.ite_none_right_eq_some] at hStep
    obtain ⟨hMem, hEq⟩ := hStep
    cases hEq
    exact removeChannel_counted h hd (h.handles hd hMem)
  | staTx a =>
    cases hStep
    exact (transportDrvStaTx_sent s a).keeps_counted h
  | apTx a =>
    cases hStep
    exact (transportDrvApTx_sent s a).keeps_counted h
  | complete i =>
    obtain ⟨b, -, hEq⟩ := Option.map_eq_some_iff.mp hStep
    cases hEq
    exact { h with }

theorem init_counted : Counted init := by
  have hNone : ∀ i, init.chan i = none := by
    intro i
    unfold State.chan init
    rw [List.getElem?_replicate]
    split <;> rfl
  refine ⟨rfl, rfl, fun i c p hc => ?_, fun i c hc => ?_, nofun⟩
  · rw [hNone] at hc
    cases hc
  · rw [hNone] at hc
    cases hc

/-- In every run the count is the number of channels that hold the common pool. -/
theorem refCount_eq {G : State → Action → Prop} (hRun : Reaches step G init s) :
    s.refCountMempool = s.chanArr.countP (holdsCommon s) := by
  have h : Counted s := hRun.invariant init_counted fun _ _ _ hu _ hNext => step_counted hu hNext
  have hSame : ∀ o ∈ s.chanArr, holdsCommon s o = holds o := by
    intro o hMem
    obtain ⟨i, hi⟩ := List.mem_iff_getElem?.mp hMem
    cases o with
    | none => rfl
    | some c =>
      have hc : s.chan i = some c := by
        rw [State.chan, hi]
        rfl
      cases hPool : c.memp with
      | none => simp [holdsCommon, holds, hPool]
      | some p => simp [holdsCommon, holds, hPool, h.common i c p hc hPool]
  have hCount : s.chanArr.countP holds = s.chanArr.countP (holdsCommon s) :=
    List.countP_congr fun o hMem => by rw [hSame o hMem]
  rw [h.refCount, hCount]

end Counting

/-! ## One pool -/

/-- There is one pool at most, and every buffer comes from it and went back to it. -/
structure OnePool (s : State) : Prop where
  pools : s.pools ≤ 1
  common : ∀ p, s.mempoolCommon = some p → p < s.pools
  inFlight : ∀ b ∈ s.inFlight, b.origin < s.pools ∧ hasTxFn b.ifType
  returned : ∀ r ∈ s.returned, r.2 = some r.1.origin

section Guarded

variable {s s' : State}

theorem dropReplaced_frame (s : State) (i : Nat) :
    ∃ arr n, dropReplaced s i = { s with chanArr := arr, refCountMempool := n } := by
  unfold dropReplaced
  split
  · exact ⟨_, _, rfl⟩
  · split
    · exact ⟨_, _, rfl⟩
    · exact ⟨_, _, rfl⟩

/-- The pools that `transport_drv_add_channel` leaves. -/
theorem addChannel_pools (h : Counted s) (a : AddArgs) :
    ∃ arr n addr common pools, (transportDrvAddChannel s a).2 =
        { s with chanArr := arr, refCountMempool := n, nextAddr := addr, mempoolCommon := common,
                 pools := pools } ∧
      ((pools = s.pools ∧ (common = s.mempoolCommon ∨ common = none)) ∨
        (CreatesPool s a ∧ pools = s.pools + 1 ∧ common = some s.pools)) := by
  obtain ⟨arr, n, hDrop⟩ := dropReplaced_frame s a.ifType
  unfold transportDrvAddChannel
  split
  · exact ⟨_, _, _, _, _, rfl, Or.inl ⟨rfl, Or.inl rfl⟩⟩
  rename_i hIf
  split
  · exact ⟨_, _, _, _, _, rfl, Or.inl ⟨rfl, Or.inl rfl⟩⟩
  rename_i hTxRx
  have hDropped := (dropReplaced_counted h (i := a.ifType) (by omega)).1
  simp only
  split
  · exact ⟨arr, n, _, _, _, hDrop, Or.inl ⟨rfl, Or.inl rfl⟩⟩
  rename_i hCalloc
  split
  · rw [hDrop]
    exact ⟨_, n, _, _, _, rfl, Or.inl ⟨rfl, Or.inl rfl⟩⟩
  rename_i hTx
  have hFresh : Counted { dropReplaced s a.ifType with
      nextAddr := (dropReplaced s a.ifType).nextAddr + 1 } := { hDropped with }
  rcases commonMempoolCreate_cases hFresh a.createOk with ⟨hEq, -⟩ | ⟨pool, pools, hEq, hPool⟩
  · rw [hEq]
    simp only [hDrop]
    exact ⟨_, n, _, none, _, rfl, Or.inl ⟨rfl, Or.inr rfl⟩⟩
  · rw [hEq]
    rcases hPool with ⟨hOld, hPools⟩ | ⟨hZero, hOk, rfl, rfl⟩
    · simp only [hDrop] at hOld hPools ⊢
      exact ⟨_, n + 1, _, some pool, pools, rfl, Or.inl ⟨hPools, Or.inl hOld.symm⟩⟩
    · have hCreates : CreatesPool s a := by
        refine ⟨by omega, ?_, ?_, ?_, Decidable.of_not_not hTx, hZero, hOk⟩
        · simpa using fun hNo => hTxRx (Or.inl hNo)
        · simpa using fun hNo => hTxRx (Or.inr hNo)
        · simpa using hCalloc
      simp only [hDrop]
      exact ⟨_, n + 1, _, some s.pools, s.pools + 1, rfl, Or.inr ⟨hCreates, rfl, rfl⟩⟩

theorem addChannel_onePool (hCounted : Counted s) (h : OnePool s) {a : AddArgs}
    (hSteady : CreatesPool s a → s.pools = 0) : OnePool (transportDrvAddChannel s a).2 := by
  obtain ⟨arr, n, addr, common, pools, hEq, hPools⟩ := addChannel_pools hCounted a
  rw [hEq]
  rcases hPools with ⟨rfl, hCommon⟩ | ⟨hCreates, rfl, rfl⟩
  · refine { h with common := fun p hp => ?_ }
    rcases hCommon with rfl | rfl
    · exact h.common p hp
    · cases hp
  · have hNone : s.pools = 0 := hSteady hCreates
    refine { h with pools := ?_, common := fun p hp => ?_, inFlight := fun b hMem => ?_ }
    · show s.pools + 1 ≤ 1
      omega
    · cases hp
      exact Nat.lt_succ_self _
    · exact ⟨Nat.lt_succ_of_lt (h.inFlight b hMem).1, (h.inFlight b hMem).2⟩

theorem Sent.onePool {ifType : Nat} (hSent : Sent ifType s s') (hCounted : Counted s)
    (h : OnePool s) (hTx : hasTxFn ifType) : OnePool s' := by
  rcases hSent with rfl | ⟨c, pool, hc, hPool, rfl⟩
  · exact h
  · refine { h with inFlight := fun b hMem => ?_ }
    rcases List.mem_append.mp hMem with hOld | hNew
    · exact h.inFlight b hOld
    · cases List.mem_singleton.mp hNew
      exact ⟨h.common pool (hCounted.common _ c pool hc hPool), hTx⟩

/-- The callback finds the pool that the buffer comes from, if it finds a channel. -/
theorem freeCb_pool (hCounted : Counted s) (h : OnePool s) {b : Buffer} (hMem : b ∈ s.inFlight)
    (hChan : (s.chan b.ifType).isSome = true) :
    (s.chan b.ifType).bind (·.memp) = some b.origin := by
  obtain ⟨c, hc⟩ := Option.isSome_iff_exists.mp hChan
  obtain ⟨hOrigin, hTx⟩ := h.inFlight b hMem
  obtain ⟨pool, hPool⟩ := Option.isSome_iff_exists.mp (hCounted.memp _ c hc hTx)
  have hLess := h.common pool (hCounted.common _ c pool hc hPool)
  have hPools := h.pools
  have hSame : pool = b.origin := by omega
  rw [hc, Option.bind_some, hPool, hSame]

theorem step_onePool (hCounted : Counted s) (h : OnePool s) {a : Action} (hSteady : Steady s a)
    (hStep : step s a = some s') : OnePool s' := by
  cases a with
  | addChannel a =>
    have hAdded := addChannel_onePool hCounted h hSteady
    cases hStep
    exact { hAdded with }
  | removeChannel hd =>
    simp only [step, Option.ite_none_right_eq_some] at hStep
    obtain ⟨-, hEq⟩ := hStep
    cases hEq
    unfold transportDrvRemoveChannel
    split
    · exact h
    · split
      · exact h
      · exact { h with }
  | staTx a =>
    cases hStep
    exact (transportDrvStaTx_sent s a).onePool hCounted h (Or.inl rfl)
  | apTx a =>
    cases hStep
    exact (transportDrvApTx_sent s a).onePool hCounted h (Or.inr (Or.inl rfl))
  | complete i =>
    obtain ⟨b, hb, hEq⟩ := Option.map_eq_some_iff.mp hStep
    cases hEq
    refine { h with inFlight := fun b hMem => h.inFlight b (List.mem_of_mem_eraseIdx hMem),
                    returned := fun r hMem => ?_ }
    rcases List.mem_append.mp hMem with hOld | hNew
    · exact h.returned r hOld
    · cases List.mem_singleton.mp hNew
      exact freeCb_pool hCounted h (List.mem_of_getElem? hb) (hSteady b hb)

theorem init_onePool : OnePool init := ⟨by decide, nofun, nofun, nofun⟩

/-- As long as a pool is created only while there is none and a transmission is completed only
while its interface has a channel, every buffer goes back to the pool that it comes from, the
count is the number of channels that hold the common pool, and there is one pool at most. -/
theorem pools_kept (hRun : Reaches step Steady init s) : PoolsKept s := by
  have h := hRun.invariant (I := fun s => Counted s ∧ OnePool s) ⟨init_counted, init_onePool⟩
    fun _ _ _ hu hSteady hNext => ⟨step_counted hu.1 hNext, step_onePool hu.1 hu.2 hSteady hNext⟩
  exact ⟨h.2.returned, refCount_eq hRun, h.2.pools⟩

end Guarded

/-- A call that works. -/
def addSta : Action :=
  .addChannel { apiChan := 5, ifType := espStaIf, hasTx := true, hasRx := true, callocOk := true,
                createOk := true }

def sendSta : Action :=
  .staTx { h := 5, hasBuffer := true, txReady := true, throttling := false, allocOk := true,
           sent := .ok }

theorem pools_kept_oneSent :
    ∃ s, Reaches step Steady init s ∧ s.returned.length = 1 ∧ PoolsKept s := by
  obtain ⟨s, hs, hLen⟩ := Option.map_eq_some_iff.mp
    (show (runGuarded step Steady init [addSta, sendSta, .complete 0]).map
      (fun s => s.returned.length) = some 1 by decide +kernel)
  exact ⟨s, .of_run hs, hLen, pools_kept (.of_run hs)⟩

/-- The only channel is replaced while a buffer is in flight: there are two pools then, and the
buffer goes to the wrong one. -/
theorem not_pools_kept :
    ¬ ∀ s, Reaches step anyStep init s → PoolsKept s := by
  intro h
  obtain ⟨s, hs, hPools⟩ := Option.map_eq_some_iff.mp
    (show (run step init [addSta, sendSta, addSta, .complete 0]).map
      (fun s => s.pools) = some 2 by decide +kernel)
  have hOne := (h s (.of_plain_run hs)).onePool
  omega

end EspHosted.Driver.Channels
