import EspHosted.Sdio.DoubleBuffer
import Mathlib.Algebra.BigOperators.Group.List.Basic
import Mathlib.Algebra.GroupWithZero.Nat

/-!
# Byte accounting of the SDIO receive path

The slave counts the bytes that it has queued for the host in a register of 20 bits. The host
counts what it has read in `sdio_rx_byte_count`, modulo `ESP_RX_BYTE_MAX`, and takes the
difference of the two for the length of its next read. A read that fails on the bus is counted
like one that succeeds.

* `sdioGetLenFromSlave_eq`: the difference is right across any number of rollovers, as long as
  the two true counts are less than `ESP_RX_BYTE_MAX` apart;
* `step_inv`, `len_add_lost`: in every run a computed length falls short of the bytes that are
  not yet read by those of the reads that failed;
* `counted`: so it is exact along runs in which no read fails;
* `not_counted`: after a failed read it is not.
-/

namespace EspHosted.Sdio.RxCount

open Machine
open DoubleBuffer (RxMode sdioGetLenFromSlave espRxByteMax espSlaveLenMask espRxBufferSize)

/-! ## Model -/

/-- Where `sdio_read_task` is: before it reads the register, before it computes the length, before
it reads the block. -/
inductive ReadPc
  | idle
  | regRead (reg queued : Nat)
  | sized (len : Nat)
  deriving DecidableEq

/-- A length that was computed, with the bytes that were queued and not yet read when the register
was read, and those of failed reads until then. -/
structure Length where
  len : Nat
  unread : Nat
  lost : Nat
  deriving DecidableEq

/-- `queued` are all bytes that the slave has queued, `read` all that the host has read, and `lost`
those of the reads that failed. -/
structure State where
  queued : Nat
  read : Nat
  lost : Nat
  sdioRxByteCount : Nat
  pc : ReadPc
  computed : List Length

def boot : State :=
  { queued := 0, read := 0, lost := 0, sdioRxByteCount := 0, pc := .idle, computed := [] }

inductive Action
  | queue (len : Nat)
  | readReg (high : Nat)
  | getLen
  | readBlock (ok : Bool)
  deriving DecidableEq

/-- The register `ESP_SLAVE_PACKET_LEN_REG`; only its low 20 bits count bytes. -/
def readReg (s : State) (high : Nat) : Option State :=
  match s.pc with
  | .idle => some { s with
      pc := .regRead (s.queued % espRxByteMax + high * espRxByteMax) s.queued }
  | _ => none

/-- `sdio_get_len_from_slave`, and what the task does with the result. -/
def getLen (mode : RxMode) (s : State) : Option State :=
  match s.pc with
  | .regRead reg queued =>
    match sdioGetLenFromSlave mode s.sdioRxByteCount reg with
    | none => some { s with pc := .idle }
    | some len => some { s with
        pc := if len = 0 then .idle else .sized len
        computed := s.computed ++ [⟨len, queued - s.read, s.lost⟩] }
  | _ => none

/-- `h_sdio_read_block`, and the count, which does not depend on its result. -/
def readBlock (s : State) (ok : Bool) : Option State :=
  match s.pc with
  | .sized len =>
    some { s with
      read := if ok then s.read + len else s.read
      lost := if ok then s.lost else s.lost + len
      sdioRxByteCount := (s.sdioRxByteCount + len) % espRxByteMax
      pc := .idle }
  | _ => none

def step (mode : RxMode) (s : State) : Action → Option State
  | .queue len => some { s with queued := s.queued + len }
  | .readReg high => readReg s high
  | .getLen => getLen mode s
  | .readBlock ok => readBlock s ok

/-- The slave stays less than `ESP_RX_BYTE_MAX` bytes ahead. -/
def InRange (s : State) : Action → Prop
  | .queue len => s.queued + len < s.read + espRxByteMax
  | _ => True

instance (s : State) : (a : Action) → Decidable (InRange s a)
  | .queue _ => inferInstanceAs (Decidable (_ < _))
  | .readReg _ | .getLen | .readBlock _ => .isTrue trivial

/-- Moreover no read fails. -/
def Whole (s : State) (a : Action) : Prop := InRange s a ∧ a ≠ .readBlock false

instance (s : State) (a : Action) : Decidable (Whole s a) := by
  unfold Whole
  infer_instance

/-- Every length is that of the bytes that were queued and not read, and together the lengths make
up what was read; all that was queued, once nothing is left. -/
structure Accounted (s : State) : Prop where
  exact : ∀ e ∈ s.computed, e.len = e.unread
  total : s.pc = .idle → (s.computed.map (·.len)).sum = s.read
  caughtUp : s.pc = .idle → s.queued = s.read → (s.computed.map (·.len)).sum = s.queued

/-! ## The two counters -/

theorem mask_eq_mod (reg : Nat) : reg &&& espSlaveLenMask = reg % espRxByteMax :=
  Nat.and_two_pow_sub_one_eq_mod reg 20

/-- The distance of two counters that are less than `n` apart, from their values modulo `n`. -/
theorem mod_gap {n a b : Nat} (hLe : b ≤ a) (hLt : a - b < n) :
    (a % n + n - b % n) % n = a - b := by
  obtain ⟨d, rfl⟩ := Nat.exists_eq_add_of_le hLe
  have hMod : b % n < n := Nat.mod_lt b (by omega)
  have hSum : (b + d) % n = (b % n + d) % n := (Nat.mod_add_mod b n d).symm
  rw [Nat.add_sub_cancel_left] at hLt ⊢
  by_cases hOver : b % n + d < n
  · have hBack : b % n + d + n - b % n = d + n := by omega
    rw [hSum, Nat.mod_eq_of_lt hOver, hBack, Nat.add_mod_right, Nat.mod_eq_of_lt hLt]
  · have hBack : b % n + d - n + n - b % n = d := by omega
    have hSmall : b % n + d - n < n := by omega
    rw [hSum, Nat.mod_eq_sub_mod (Nat.le_of_not_lt hOver), Nat.mod_eq_of_lt hSmall, hBack,
      Nat.mod_eq_of_lt hLt]

/-- Both branches compute the distance of the counters. -/
theorem sdioGetLenFromSlave_eq {mode : RxMode} {reg queued counted len : Nat}
    (hReg : reg % espRxByteMax = queued % espRxByteMax) (hLe : counted ≤ queued)
    (hLt : queued - counted < espRxByteMax)
    (hLen : sdioGetLenFromSlave mode (counted % espRxByteMax) reg = some len) :
    len = queued - counted := by
  have hGap := mod_gap hLe hLt
  have hCount : counted % espRxByteMax < espRxByteMax := Nat.mod_lt _ (by decide)
  have hQueue : queued % espRxByteMax < espRxByteMax := Nat.mod_lt _ (by decide)
  simp only [sdioGetLenFromSlave, mask_eq_mod, hReg, Option.ite_none_left_eq_some,
    Option.some.injEq] at hLen
  rw [← hLen.2, ← hGap]
  split
  · rfl
  · -- the register has rolled over since the last read
    rename_i hOver
    have hSmall : queued % espRxByteMax + espRxByteMax - counted % espRxByteMax < espRxByteMax := by
      omega
    rw [Nat.mod_eq_of_lt hSmall]
    omega

/-! ## The invariant -/

/-- What the register said is between the two counts; a length that is about to be read is the
whole distance at that time. -/
def Sized (s : State) : Prop :=
  match s.pc with
  | .idle => True
  | .regRead reg queued =>
    reg % espRxByteMax = queued % espRxByteMax ∧ s.read + s.lost ≤ queued ∧ queued ≤ s.queued
  | .sized len => s.read + s.lost + len ≤ s.queued

/-- The length that is about to be read. -/
def ReadPc.pending : ReadPc → Nat
  | .sized len => len
  | _ => 0

structure Inv (s : State) : Prop where
  le : s.read + s.lost ≤ s.queued
  lt : s.queued < s.read + espRxByteMax
  count : s.sdioRxByteCount = (s.read + s.lost) % espRxByteMax
  sized : Sized s
  short : ∀ e ∈ s.computed, e.len + e.lost = e.unread
  total : (s.computed.map (·.len)).sum = s.read + s.lost + s.pc.pending

variable {mode : RxMode} {s s' : State}

theorem boot_inv : Inv boot :=
  ⟨Nat.le_refl _, by decide, rfl, trivial, nofun, rfl⟩

theorem queue_inv {len : Nat} (h : Inv s) (hRange : InRange s (.queue len)) :
    Inv { s with queued := s.queued + len } := by
  refine ⟨Nat.le_add_right_of_le h.le, hRange, h.count, ?_, h.short, h.total⟩
  have hSized := h.sized
  unfold Sized at hSized ⊢
  dsimp only
  split
  · trivial
  · rename_i hPc
    rw [hPc] at hSized
    exact ⟨hSized.1, hSized.2.1, Nat.le_add_right_of_le hSized.2.2⟩
  · rename_i hPc
    rw [hPc] at hSized
    exact Nat.le_add_right_of_le hSized

theorem readReg_inv {high : Nat} (h : Inv s) (hStep : readReg s high = some s') : Inv s' := by
  unfold readReg at hStep
  split at hStep
  · rename_i hPc
    cases hStep
    refine ⟨h.le, h.lt, h.count, ⟨?_, h.le, Nat.le_refl _⟩, h.short, ?_⟩
    · rw [Nat.add_mul_mod_self_right, Nat.mod_mod]
    · have hTotal := h.total
      rwa [hPc] at hTotal
  · cases hStep

theorem getLen_inv (h : Inv s) (hStep : getLen mode s = some s') : Inv s' := by
  unfold getLen at hStep
  split at hStep
  · rename_i reg queued hPc
    have hSized := h.sized
    have hTotal := h.total
    simp only [Sized, hPc] at hSized
    simp only [hPc, ReadPc.pending, Nat.add_zero] at hTotal
    obtain ⟨hReg, hLe, hQueued⟩ := hSized
    split at hStep
    · cases hStep
      exact ⟨h.le, h.lt, h.count, trivial, h.short, hTotal⟩
    · rename_i len hLen
      cases hStep
      rw [h.count] at hLen
      have hLt := h.lt
      have hGap : len = queued - (s.read + s.lost) :=
        sdioGetLenFromSlave_eq hReg hLe (by omega) hLen
      have hPending : (if len = 0 then ReadPc.idle else .sized len).pending = len := by
        split
        · rename_i hZero
          exact hZero.symm
        · rfl
      refine ⟨h.le, h.lt, h.count, ?_, ?_, ?_⟩
      · unfold Sized
        dsimp only
        by_cases hZero : len = 0
        · rw [if_pos hZero]
          trivial
        · rw [if_neg hZero]
          dsimp only
          omega
      · intro e he
        rcases List.mem_append.mp he with hOld | hNew
        · exact h.short e hOld
        · obtain rfl := List.mem_singleton.mp hNew
          dsimp only
          omega
      · simp only [List.map_append, List.map_cons, List.map_nil, List.sum_append, List.sum_cons,
          List.sum_nil, hTotal, hPending, Nat.add_zero]
  · cases hStep

theorem readBlock_inv {ok : Bool} (h : Inv s) (hStep : readBlock s ok = some s') : Inv s' := by
  unfold readBlock at hStep
  split at hStep
  · rename_i len hPc
    have hSized := h.sized
    have hTotal := h.total
    have hLt := h.lt
    simp only [Sized, hPc] at hSized
    simp only [hPc, ReadPc.pending] at hTotal
    cases hStep
    have hSum : (if ok then s.read + len else s.read) + (if ok then s.lost else s.lost + len) =
        s.read + s.lost + len := by
      cases ok with
      | true => exact Nat.add_right_comm _ _ _
      | false => exact (Nat.add_assoc _ _ _).symm
    have hMore : s.read ≤ if ok then s.read + len else s.read := by split <;> omega
    refine ⟨?_, ?_, ?_, trivial, h.short, ?_⟩
    · dsimp only
      rw [hSum]
      exact hSized
    · dsimp only
      omega
    · dsimp only
      rw [hSum, h.count, Nat.mod_add_mod]
    · dsimp only
      rw [hSum, hTotal]
      rfl
  · cases hStep

theorem step_inv {a : Action} (h : Inv s) (hRange : InRange s a)
    (hStep : step mode s a = some s') : Inv s' := by
  cases a with
  | queue len =>
    cases hStep
    exact queue_inv h hRange
  | readReg high => exact readReg_inv h hStep
  | getLen => exact getLen_inv h hStep
  | readBlock ok => exact readBlock_inv h hStep

/-- Whatever fails, a computed length misses the bytes of failed reads and no others. -/
theorem len_add_lost (hRun : Reaches (step mode) InRange boot s) :
    ∀ e ∈ s.computed, e.len + e.lost = e.unread :=
  (hRun.invariant boot_inv fun _ _ _ => step_inv).short

/-! ## Runs without a failed read -/

/-- Nothing was lost so far. -/
structure NoneLost (s : State) : Prop where
  now : s.lost = 0
  before : ∀ e ∈ s.computed, e.lost = 0

theorem noneLost_step {a : Action} (h : NoneLost s) (hWhole : Whole s a)
    (hStep : step mode s a = some s') : NoneLost s' := by
  cases a with
  | queue len =>
    cases hStep
    exact ⟨h.now, h.before⟩
  | readReg high =>
    simp only [step, readReg] at hStep
    split at hStep <;> cases hStep
    exact ⟨h.now, h.before⟩
  | getLen =>
    simp only [step, getLen] at hStep
    split at hStep
    · split at hStep <;> cases hStep
      · exact ⟨h.now, h.before⟩
      · refine ⟨h.now, fun e he => ?_⟩
        rcases List.mem_append.mp he with hOld | hNew
        · exact h.before e hOld
        · obtain rfl := List.mem_singleton.mp hNew
          exact h.now
    · cases hStep
  | readBlock ok =>
    have hOk : ok = true := by
      cases ok with
      | true => rfl
      | false => exact absurd rfl hWhole.2
    simp only [step, readBlock, hOk] at hStep
    split at hStep <;> cases hStep
    exact ⟨h.now, h.before⟩

theorem Inv.lengths_exact (h : Inv s) (hNone : NoneLost s) : Accounted s := by
  have hTotal (hPc : s.pc = .idle) : (s.computed.map (·.len)).sum = s.read := by
    have hSum := h.total
    rwa [hPc, hNone.now] at hSum
  refine ⟨fun e he => ?_, hTotal, fun hPc hAll => (hTotal hPc).trans hAll.symm⟩
  have hShort := h.short e he
  rwa [hNone.before e he] at hShort

theorem counted (hRun : Reaches (step mode) Whole boot s) : Accounted s := by
  have hInv : Inv s := (hRun.mono fun _ _ => And.left).invariant boot_inv fun _ _ _ => step_inv
  have hNone : NoneLost s := hRun.invariant ⟨rfl, nofun⟩ fun _ _ _ => noneLost_step
  exact hInv.lengths_exact hNone

/-- One transfer of the slave, read at once. -/
def transfer (len : Nat) (ok : Bool) : List Action :=
  [.queue len, .readReg 5, .getLen, .readBlock ok]

/-- The counters roll over in the second transfer. -/
theorem counted_rollover : ∃ s, Reaches (step .streaming) Whole boot s ∧
    s.sdioRxByteCount = 99 ∧ s.read = espRxByteMax + 99 ∧ Accounted s := by
  obtain ⟨s, hs, hFields⟩ := Option.map_eq_some_iff.mp
    (show (runGuarded (step .streaming) Whole boot
      (transfer 1048575 true ++ transfer 100 true)).map (fun s => (s.sdioRxByteCount, s.read)) =
        some (99, espRxByteMax + 99) by decide +kernel)
  obtain ⟨hCount, hRead⟩ := Prod.mk.inj hFields
  exact ⟨s, .of_run hs, hCount, hRead, counted (.of_run hs)⟩

/-- The first transfer was not read, and the second length leaves it out. -/
theorem not_counted :
    ¬ ∀ mode s, Reaches (step mode) InRange boot s → Accounted s := by
  intro h
  obtain ⟨s, hs, hComputed⟩ := Option.map_eq_some_iff.mp
    (show (runGuarded (step .streaming) InRange boot
      (transfer 100 false ++ transfer 40 true)).map State.computed =
        some [⟨100, 100, 0⟩, ⟨40, 140, 100⟩] by decide +kernel)
  have hExact := (h .streaming s (.of_run hs)).exact ⟨40, 140, 100⟩ (by simp [hComputed])
  exact absurd hExact (by decide)

end EspHosted.Sdio.RxCount
