import EspHosted.Lib.Machine
import Mathlib.Data.List.Perm.Basic

/-!
# Transmit tokens of the co-processor

The SPI half-duplex slave and the SDIO slave bound what they give to the driver by a counting
semaphore, `mempool_tx_sem` and `sdio_send_queue_sem`. A write takes a token, and the task behind
the driver returns it when the transaction is finished. On SPI half-duplex the token is taken
before the buffer is allocated, on SDIO afterwards; only `sdio_write` gives it back when the
driver refuses the transaction.

Any number of calls of `esp_spi_hd_write` or `sdio_write` and of `generate_startup_event` may be in
progress at once. A call is a step for each place where it can block or fail.

* `Accounted`, `step_accounted`: a token is free, held, or lost with a call that failed;
* `conserved_iff`: so the tokens are conserved exactly while no call has failed with one;
* `conserved`: they are along runs of `Returned`;
* `not_conserved`: packets that are longer than a buffer leave no token.
-/

namespace EspHosted.Coprocessor.WriteTokens

open Machine

/-! ## Model -/

inductive Bus
  | spiHd
  | sdio
  deriving DecidableEq

/-- `sizeof(struct esp_payload_header)`. -/
def payloadHeaderSize : Nat := 12

/-- `queueSize` is `SPI_HD_QUEUE_SIZE` or `SDIO_DRIVER_TX_QUEUE_SIZE`. `blockSize` is the size of a
block of the memory pool, and `none` without `H_USE_MEMPOOL`. -/
structure Config where
  bus : Bus
  queueSize : Nat
  blockSize : Option Nat

/-- What a write tests first. -/
structure Args where
  active : Bool
  hostPowerSaving : Bool
  payloadLen : Nat
  payload : Bool
  flag : Nat
  wifiFlowCtrlEn : Bool
  deriving DecidableEq

/-- The arguments with which `esp_spi_hd_write` or `sdio_write` goes on. -/
def Args.accepted (a : Args) : Bus → Bool
  | .spiHd => a.active && (a.wifiFlowCtrlEn || (a.payloadLen != 0 && a.payload))
  | .sdio => a.active && !a.hostPowerSaving && (a.payloadLen != 0 || a.payload || a.flag != 0)

/-- Where a call is: before it takes the token, allocates the buffer, or passes the transaction to
the driver. -/
inductive Place
  | take
  | alloc
  | queue
  deriving DecidableEq

/-- A call in progress that wants `nbytes`; `startup` for `generate_startup_event`. -/
structure Call where
  startup : Bool
  nbytes : Nat
  place : Place
  deriving DecidableEq

/-- The first place of a call. -/
def Bus.first : Bus → Place
  | .spiHd => .take
  | .sdio => .alloc

/-- A call has the token from the take on. -/
def Call.holds (bus : Bus) (c : Call) : Bool :=
  match bus, c.place with
  | .spiHd, .alloc | .spiHd, .queue | .sdio, .queue => true
  | _, _ => false

/-- `sem` is the semaphore, and `inDriver` counts the transactions of the driver. `finishing` says
that `spi_hd_tx_done_task` or `sdio_tx_done_task` has a finished one, whose token it is going to
give. `lost` counts the calls that failed and kept their token. -/
structure State where
  sem : Nat
  calls : List Call
  inDriver : Nat
  finishing : Bool
  lost : Nat

def boot (cfg : Config) : State :=
  { sem := cfg.queueSize, calls := [], inDriver := 0, finishing := false, lost := 0 }

inductive Action
  | write (args : Args)
  | startup
  | take (c : Call)
  | alloc (c : Call) (ok : Bool)
  | queue (c : Call) (ok : Bool)
  | getFinished (ok : Bool)
  | give
  deriving DecidableEq

/-- `xSemaphoreGive`, which fails at the maximum. -/
def giveSem (cfg : Config) (s : State) : State := { s with sem := min (s.sem + 1) cfg.queueSize }

/-- A call goes on at the place `p`. -/
def State.move (s : State) (c : Call) (p : Place) : State :=
  { s with calls := { c with place := p } :: s.calls.erase c }

/-- A call returns; what it loses is the token it has. -/
def State.leave (cfg : Config) (s : State) (c : Call) : State :=
  { s with
    calls := s.calls.erase c
    lost := s.lost + (c.holds cfg.bus).toNat }

def write (cfg : Config) (s : State) (args : Args) : State :=
  if args.accepted cfg.bus then
    { s with calls := ⟨false, args.payloadLen + payloadHeaderSize, cfg.bus.first⟩ :: s.calls }
  else s

/-- `generate_startup_event`. -/
def startup (cfg : Config) (s : State) : State :=
  { s with calls := ⟨true, 512, cfg.bus.first⟩ :: s.calls }

def take (cfg : Config) (s : State) (c : Call) : Option State :=
  if c ∈ s.calls ∧ c.place = .take ∧ 0 < s.sem then
    some { s.move c (match cfg.bus with | .spiHd => .alloc | .sdio => .queue) with
      sem := s.sem - 1 }
  else none

/-- A pool has no block for more bytes than a block has. -/
def allocates (cfg : Config) (nbytes : Nat) (ok : Bool) : Bool :=
  ok && cfg.blockSize.all (nbytes ≤ ·)

/-- The allocation of the buffer. `generate_startup_event` asserts that it succeeds. -/
def alloc (cfg : Config) (s : State) (c : Call) (ok : Bool) : Option State :=
  if c ∈ s.calls ∧ c.place = .alloc then
    if allocates cfg c.nbytes ok then
      some (s.move c (match cfg.bus with | .spiHd => .queue | .sdio => .take))
    else if c.startup then none
    else some (s.leave cfg c)
  else none

/-- `spi_slave_hd_queue_trans` or `sdio_slave_send_queue`. -/
def queue (cfg : Config) (s : State) (c : Call) (ok : Bool) : Option State :=
  if c ∈ s.calls ∧ c.place = .queue then
    if ok then some { s with calls := s.calls.erase c, inDriver := s.inDriver + 1 }
    else if cfg.bus = .sdio ∧ c.startup = false then
      some (giveSem cfg { s with calls := s.calls.erase c })
    else some (s.leave cfg c)
  else none

/-- `spi_slave_hd_get_trans_res` or `sdio_slave_send_get_finished`. -/
def getFinished (s : State) (ok : Bool) : Option State :=
  if s.finishing = false ∧ 0 < s.inDriver then
    if ok then some { s with inDriver := s.inDriver - 1, finishing := true } else some s
  else none

def give (cfg : Config) (s : State) : Option State :=
  if s.finishing then some (giveSem cfg { s with finishing := false }) else none

def step (cfg : Config) (s : State) : Action → Option State
  | .write args => some (write cfg s args)
  | .startup => some (startup cfg s)
  | .take c => take cfg s c
  | .alloc c ok => alloc cfg s c ok
  | .queue c ok => queue cfg s c ok
  | .getFinished ok => getFinished s ok
  | .give => give cfg s

/-! ## What is promised, and when -/

/-- The tokens that calls in progress hold. -/
def State.held (cfg : Config) (s : State) : Nat := s.calls.countP (·.holds cfg.bus)

/-- The transactions of the driver and of the calls in progress. One that is finished counts until
its token is given. -/
def State.owned (cfg : Config) (s : State) : Nat :=
  s.held cfg + s.inDriver + s.finishing.toNat

/-- The free tokens and the transactions make up the queue size. In particular a writer finds a
token once nothing is on its way. -/
structure Conserved (cfg : Config) (s : State) : Prop where
  total : s.sem + s.owned cfg = cfg.queueSize
  free : s.owned cfg = 0 → s.sem = cfg.queueSize

/-- No call fails while it has the token, `sdio_write` in the driver excepted. -/
def Returned (cfg : Config) (_ : State) : Action → Prop
  | .alloc c ok => allocates cfg c.nbytes ok = true ∨ cfg.bus = .sdio
  | .queue c ok => ok = true ∨ (cfg.bus = .sdio ∧ c.startup = false)
  | _ => True

instance (cfg : Config) (s : State) : (a : Action) → Decidable (Returned cfg s a)
  | .alloc .. => inferInstanceAs (Decidable (_ ∨ _))
  | .queue .. => inferInstanceAs (Decidable (_ ∨ _))
  | .write _ | .startup | .take _ | .getFinished _ | .give => .isTrue trivial

/-! ## The account -/

/-- Every token is free, held or lost. -/
def Accounted (cfg : Config) (s : State) : Prop := s.sem + s.owned cfg + s.lost = cfg.queueSize

variable {cfg : Config} {s s' : State} {c : Call}

theorem held_erase (cfg : Config) (hMem : c ∈ s.calls) :
    s.held cfg = (s.calls.erase c).countP (·.holds cfg.bus) + (c.holds cfg.bus).toNat := by
  rw [State.held, (List.perm_cons_erase hMem).countP_eq, List.countP_cons]
  cases c.holds cfg.bus <;> rfl

theorem held_move (cfg : Config) {p : Place} (hMem : c ∈ s.calls) :
    (s.move c p).held cfg + (c.holds cfg.bus).toNat =
      s.held cfg + (({ c with place := p } : Call).holds cfg.bus).toNat := by
  rw [held_erase cfg hMem, State.held, State.move, List.countP_cons]
  cases ({ c with place := p } : Call).holds cfg.bus with
  | true => exact Nat.add_right_comm _ _ _
  | false => rfl

theorem accounted_begin {startup : Bool} {nbytes : Nat} (h : Accounted cfg s) :
    Accounted cfg { s with calls := ⟨startup, nbytes, cfg.bus.first⟩ :: s.calls } := by
  have hFirst : Call.holds cfg.bus ⟨startup, nbytes, cfg.bus.first⟩ = false := by
    cases cfg.bus <;> rfl
  unfold Accounted State.owned State.held at h ⊢
  rwa [List.countP_cons_of_neg (by rw [hFirst]; decide)]

theorem accounted_leave (h : Accounted cfg s) (hMem : c ∈ s.calls) :
    Accounted cfg (s.leave cfg c) := by
  have hHeld := held_erase cfg hMem
  unfold Accounted State.owned at h ⊢
  simp only [State.leave, State.held] at hHeld ⊢
  unfold State.held at h
  omega

/-- The token that is given was not free, so the semaphore is not at its maximum. -/
theorem accounted_giveSem (h : s.sem + 1 + s.owned cfg + s.lost = cfg.queueSize) :
    Accounted cfg (giveSem cfg s) := by
  have hSem : min (s.sem + 1) cfg.queueSize = s.sem + 1 := by omega
  unfold Accounted giveSem
  rw [hSem]
  exact h

theorem accounted_take (h : Accounted cfg s) (hStep : take cfg s c = some s') :
    Accounted cfg s' := by
  simp only [take, Option.ite_none_right_eq_some] at hStep
  obtain ⟨⟨hMem, hPlace, hSem⟩, hEq⟩ := hStep
  cases hEq
  unfold Accounted State.owned at h ⊢
  have hOld : c.holds cfg.bus = false := by
    unfold Call.holds
    rw [hPlace]
    cases cfg.bus <;> rfl
  cases hBus : cfg.bus with
  | spiHd =>
    have hMove := held_move cfg (p := .alloc) hMem
    rw [hOld, hBus] at hMove
    simp only [Call.holds, Bool.toNat_false, Bool.toNat_true] at hMove
    simp only [State.move, State.held] at h hMove ⊢
    omega
  | sdio =>
    have hMove := held_move cfg (p := .queue) hMem
    rw [hOld, hBus] at hMove
    simp only [Call.holds, Bool.toNat_false, Bool.toNat_true] at hMove
    simp only [State.move, State.held] at h hMove ⊢
    omega

theorem accounted_alloc {ok : Bool} (h : Accounted cfg s) (hStep : alloc cfg s c ok = some s') :
    Accounted cfg s' := by
  simp only [alloc, Option.ite_none_right_eq_some] at hStep
  obtain ⟨⟨hMem, hPlace⟩, hEq⟩ := hStep
  split at hEq
  · cases hEq
    unfold Accounted State.owned at h ⊢
    cases hBus : cfg.bus with
    | spiHd =>
      have hMove := held_move cfg (p := .queue) hMem
      rw [hBus] at hMove
      simp only [Call.holds, hPlace] at hMove
      simp only [State.move, State.held] at h hMove ⊢
      omega
    | sdio =>
      have hMove := held_move cfg (p := .take) hMem
      rw [hBus] at hMove
      simp only [Call.holds, hPlace] at hMove
      simp only [State.move, State.held] at h hMove ⊢
      omega
  · split at hEq <;> cases hEq
    exact accounted_leave h hMem

theorem accounted_queue {ok : Bool} (h : Accounted cfg s) (hStep : queue cfg s c ok = some s') :
    Accounted cfg s' := by
  simp only [queue, Option.ite_none_right_eq_some] at hStep
  obtain ⟨⟨hMem, hPlace⟩, hEq⟩ := hStep
  have hHeld := held_erase cfg hMem
  have hHolds : c.holds cfg.bus = true := by
    unfold Call.holds
    rw [hPlace]
    cases cfg.bus <;> rfl
  rw [hHolds, Bool.toNat_true] at hHeld
  split at hEq
  · cases hEq
    unfold Accounted State.owned at h ⊢
    simp only [State.held] at h hHeld ⊢
    omega
  · split at hEq <;> cases hEq
    · apply accounted_giveSem
      unfold Accounted State.owned at h
      unfold State.owned
      simp only [State.held] at h hHeld ⊢
      omega
    · exact accounted_leave h hMem

theorem accounted_getFinished {ok : Bool} (h : Accounted cfg s)
    (hStep : getFinished s ok = some s') : Accounted cfg s' := by
  simp only [getFinished, Option.ite_none_right_eq_some] at hStep
  obtain ⟨⟨hIdle, hSome⟩, hEq⟩ := hStep
  split at hEq <;> cases hEq
  · unfold Accounted State.owned at h ⊢
    rw [hIdle] at h
    simp only [State.held, Bool.toNat_false, Bool.toNat_true] at h ⊢
    omega
  · exact h

theorem accounted_give (h : Accounted cfg s) (hStep : give cfg s = some s') :
    Accounted cfg s' := by
  simp only [give, Option.ite_none_right_eq_some] at hStep
  obtain ⟨hFinishing, hEq⟩ := hStep
  cases hEq
  apply accounted_giveSem
  unfold Accounted State.owned at h
  unfold State.owned
  rw [hFinishing] at h
  simp only [State.held, Bool.toNat_false, Bool.toNat_true] at h ⊢
  omega

theorem step_accounted {a : Action} (h : Accounted cfg s) (hStep : step cfg s a = some s') :
    Accounted cfg s' := by
  cases a with
  | write args =>
    cases hStep
    unfold write
    split
    · exact accounted_begin h
    · exact h
  | startup =>
    cases hStep
    exact accounted_begin h
  | take c => exact accounted_take h hStep
  | alloc c ok => exact accounted_alloc h hStep
  | queue c ok => exact accounted_queue h hStep
  | getFinished ok => exact accounted_getFinished h hStep
  | give => exact accounted_give h hStep

theorem boot_accounted (cfg : Config) : Accounted cfg (boot cfg) := rfl

/-- In every run the tokens are conserved while no call has failed with one, and then no more. -/
theorem conserved_iff (hRun : Reaches (step cfg) anyStep (boot cfg) s) :
    Conserved cfg s ↔ s.lost = 0 := by
  have hAll : Accounted cfg s :=
    hRun.invariant (boot_accounted cfg) fun _ _ _ h _ hStep => step_accounted h hStep
  unfold Accounted at hAll
  constructor
  · intro h
    have hTotal := h.total
    omega
  · intro hNone
    exact ⟨by omega, fun hFree => by omega⟩

/-! ## Runs that lose none -/

theorem lost_step {a : Action} (hReturned : Returned cfg s a) (hStep : step cfg s a = some s') :
    s'.lost = s.lost := by
  cases a with
  | write args =>
    cases hStep
    unfold write
    split <;> rfl
  | startup =>
    cases hStep
    rfl
  | take c =>
    simp only [step, take, Option.ite_none_right_eq_some] at hStep
    cases hStep.2
    rfl
  | alloc c ok =>
    simp only [step, alloc, Option.ite_none_right_eq_some] at hStep
    obtain ⟨⟨-, hPlace⟩, hEq⟩ := hStep
    split at hEq
    · cases hEq
      rfl
    · rename_i hFail
      split at hEq <;> cases hEq
      have hBus := hReturned.resolve_left hFail
      simp only [State.leave, Call.holds, hBus, hPlace, Bool.toNat_false, Nat.add_zero]
  | queue c ok =>
    simp only [step, queue, Option.ite_none_right_eq_some] at hStep
    obtain ⟨-, hEq⟩ := hStep
    split at hEq
    · cases hEq
      rfl
    · rename_i hFail
      rw [if_pos (hReturned.resolve_left hFail)] at hEq
      cases hEq
      rfl
  | getFinished ok =>
    simp only [step, getFinished, Option.ite_none_right_eq_some] at hStep
    split at hStep <;> cases hStep.2 <;> rfl
  | give =>
    simp only [step, give, Option.ite_none_right_eq_some] at hStep
    cases hStep.2
    rfl

/-- No token is lost as long as no call fails with one. -/
theorem conserved (hRun : Reaches (step cfg) (Returned cfg) (boot cfg) s) : Conserved cfg s := by
  have hNone : s.lost = 0 :=
    hRun.invariant (I := fun t => t.lost = 0) rfl fun _ _ _ h hReturned hStep =>
      (lost_step hReturned hStep).trans h
  exact (conserved_iff hRun.unguarded).mpr hNone

/-- A Wi-Fi packet. -/
def packet (payloadLen : Nat) : Args := ⟨true, false, payloadLen, true, 0, false⟩

def spiHd : Config := ⟨.spiHd, 2, some 1600⟩
def sdio : Config := ⟨.sdio, 2, some 1536⟩

/-- A packet is sent and its transaction finished, the second one is still in the driver. -/
theorem conserved_twoPackets : ∃ s, Reaches (step spiHd) (Returned spiHd) (boot spiHd) s ∧
    s.sem = 1 ∧ s.inDriver = 1 ∧ Conserved spiHd s := by
  obtain ⟨s, hs, hSem, hDriver⟩ : ∃ s, runGuarded (step spiHd) (Returned spiHd) (boot spiHd)
      [.write (packet 100), .take ⟨false, 112, .take⟩, .alloc ⟨false, 112, .alloc⟩ true, .startup,
        .take ⟨true, 512, .take⟩, .queue ⟨false, 112, .queue⟩ true,
        .alloc ⟨true, 512, .alloc⟩ true, .queue ⟨true, 512, .queue⟩ true, .getFinished true,
        .give] = some s ∧ s.sem = 1 ∧ s.inDriver = 1 :=
    ⟨_, rfl, rfl, rfl⟩
  exact ⟨s, .of_run hs, hSem, hDriver, conserved (.of_run hs)⟩

/-- On SPI half-duplex two packets that do not fit into a block leave no token and no transaction.
On SDIO it takes two startup events that the driver refuses. -/
theorem not_conserved :
    (¬ ∀ s, Reaches (step spiHd) anyStep (boot spiHd) s → Conserved spiHd s) ∧
    ¬ ∀ s, Reaches (step sdio) anyStep (boot sdio) s → Conserved sdio s := by
  constructor
  · intro h
    obtain ⟨s, hs, hSem, hOwned⟩ : ∃ s, run (step spiHd) (boot spiHd)
        [.write (packet 1600), .take ⟨false, 1612, .take⟩, .alloc ⟨false, 1612, .alloc⟩ true,
          .write (packet 1600), .take ⟨false, 1612, .take⟩, .alloc ⟨false, 1612, .alloc⟩ true] =
            some s ∧ s.sem = 0 ∧ s.owned spiHd = 0 :=
      ⟨_, rfl, rfl, rfl⟩
    have hFree := (h s (.of_plain_run hs)).free hOwned
    rw [hSem] at hFree
    cases hFree
  · intro h
    obtain ⟨s, hs, hSem, hOwned⟩ : ∃ s, run (step sdio) (boot sdio)
        [.startup, .alloc ⟨true, 512, .alloc⟩ true, .take ⟨true, 512, .take⟩,
          .queue ⟨true, 512, .queue⟩ false, .startup, .alloc ⟨true, 512, .alloc⟩ true,
          .take ⟨true, 512, .take⟩, .queue ⟨true, 512, .queue⟩ false] =
            some s ∧ s.sem = 0 ∧ s.owned sdio = 0 :=
      ⟨_, rfl, rfl, rfl⟩
    have hFree := (h s (.of_plain_run hs)).free hOwned
    rw [hSem] at hFree
    cases hFree

end EspHosted.Coprocessor.WriteTokens
