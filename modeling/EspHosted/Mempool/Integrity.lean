import EspHosted.Mempool.Pool

/-!
# Integrity of the memory pools

* `mutex_step`: as long as no pool is created while a task is in a call, one task at most is in a
  critical section, and it holds the current mutex;
* `inv_step`: the free list and the outstanding blocks of a pool are its blocks, through both
  halves of a critical section;
* `fits_of_sized`: the sizes are computed right for pools that have from 1 to 2^16 - 1 blocks and
  stay below 2^32 bytes with their alignment;
* `pools_intact`: in every run of such steps with such pools outstanding blocks do not overlap, an
  allocation gets a block exactly when fewer than `num_blocks` are outstanding, and `num_free` is
  the length of the free list.
-/

namespace EspHosted.Mempool

open FreeList Machine

/-! ## What is kept -/

/-- Outstanding blocks lie apart in the heap, and `mp_num_free` counts the free list. -/
structure PoolIntact (mem : Nat → Nat) (pl : Pool) : Prop where
  inside : ∀ b ∈ pl.outstanding, pl.heap ≤ b ∧ b + pl.blockSize ≤ pl.heap + pl.heapBytes
  apart : pl.outstanding.Pairwise fun b b' => b + pl.blockSize ≤ b' ∨ b' + pl.blockSize ≤ b
  numFree : ∃ free, Chain mem pl.first free ∧ pl.mpNumFree = free.length

structure Intact (s : State) : Prop where
  pool : ∀ p pl, s.livePool p = some pl → PoolIntact s.mem pl
  across : ∀ p q pl ql, p ≠ q → s.livePool p = some pl → s.livePool q = some ql →
    ∀ b ∈ pl.outstanding, ∀ b' ∈ ql.outstanding, b + pl.blockSize ≤ b' ∨ b' + ql.blockSize ≤ b
  allocs : ∀ r ∈ s.allocs, r.ok = true ↔ r.outstanding < r.numBlocks

/-- The number of blocks fits into 16 bits, and the heap has room for all of them. -/
def Fits (cfg : PoolConfig) (heapBytes : Nat) : Prop :=
  0 < cfg.numBlocks ∧ cfg.numBlocks < 2 ^ 16 ∧ cfg.blockSize ≤ trueBlockSize cfg.blockSize ∧
    cfg.numBlocks * trueBlockSize cfg.blockSize ≤ heapBytes

/-- The bytes of a block, in whole words. -/
def wholeWords (blockSize : Nat) : Nat := (blockSize + 3) / osAlignment * osAlignment

/-- The number of blocks fits into 16 bits, and their bytes into 32, with the padding to the
alignment if the heap has to be allocated. -/
def Sized (cfg : PoolConfig) : Prop :=
  0 < cfg.numBlocks ∧ cfg.numBlocks < 2 ^ 16 ∧
    cfg.numBlocks * wholeWords cfg.blockSize < 2 ^ 32 ∧
      (cfg.preAllocatedMem = 0 → 0 < cfg.alignmentInBytes ∧
        cfg.numBlocks * wholeWords cfg.blockSize + cfg.alignmentInBytes <
          2 ^ 32 + misalignment (cfg.numBlocks * wholeWords cfg.blockSize) cfg.alignmentInBytes)

instance (cfg : PoolConfig) : Decidable (Sized cfg) := by
  unfold Sized
  infer_instance

/-- `os_mempool_init` runs for a pool with blocks only while no task is in a call, the mutex is
created, and the pool is sized. -/
def Careful (s : State) : Action → Prop
  | .create cfg m => ∀ h ∈ poolHeap cfg m, cfg.blockSize ≠ 0 →
      s.busy = [] ∧ m.mutexOk = true ∧ (h.1 % osAlignment = 0 → Sized cfg)
  | _ => True

instance (s : State) (a : Action) : Decidable (Careful s a) := by
  unfold Careful
  split <;> infer_instance

/-! ## Sizes -/

/-- A block in whole words is as large as it is in the pool. -/
theorem trueBlockSize_eq {blockSize : Nat} (h : wholeWords blockSize < 2 ^ 32) :
    trueBlockSize blockSize = wholeWords blockSize ∧ blockSize ≤ wholeWords blockSize := by
  unfold trueBlockSize wholeWords osAlignment at *
  split
  · rw [Nat.mod_eq_of_lt (by omega)]
    omega
  · rw [Nat.mod_eq_of_lt (by omega)]
    omega

theorem osMempoolBytes_eq {n blockSize : Nat} (hPos : 0 < n)
    (h : n * wholeWords blockSize < 2 ^ 32) :
    osMempoolBytes n blockSize = n * wholeWords blockSize := by
  have hOne : wholeWords blockSize < 2 ^ 32 :=
    Nat.lt_of_le_of_lt (Nat.le_mul_of_pos_left _ hPos) h
  have hWords : blockSize + (osAlignment - 1) < 2 ^ 32 := by
    unfold wholeWords osAlignment at hOne
    unfold osAlignment
    omega
  have hBytes : osAlignment * ((blockSize + 3) / osAlignment * n) = n * wholeWords blockSize := by
    unfold wholeWords
    rw [Nat.mul_comm n, Nat.mul_right_comm, Nat.mul_comm]
  have hCount : (blockSize + 3) / osAlignment * n < 2 ^ 32 := by
    rw [← hBytes] at h
    exact Nat.lt_of_le_of_lt (Nat.le_mul_of_pos_left _ (by decide)) h
  unfold osMempoolBytes
  rw [Nat.mod_eq_of_lt hWords]
  change osAlignment * ((blockSize + 3) / osAlignment * n % 2 ^ 32) % 2 ^ 32 = _
  rw [Nat.mod_eq_of_lt hCount, hBytes, Nat.mod_eq_of_lt h]

/-- The padding never takes away. -/
theorem le_mempoolAligned {val bytes : Nat} (hPos : 0 < bytes) (hVal : val < 2 ^ 32)
    (h : val + bytes < 2 ^ 32 + misalignment val bytes) : val ≤ mempoolAligned val bytes := by
  have hMis : misalignment val bytes ≤ val := Nat.and_le_left
  have hLess : misalignment val bytes < bytes := by
    refine Nat.lt_of_le_of_lt Nat.and_le_right ?_
    omega
  unfold mempoolAligned
  omega

/-- A sized pool has room for its blocks. -/
theorem fits_of_sized {cfg : PoolConfig} {m : Memory} {h : Nat × Nat}
    (hHeap : poolHeap cfg m = some h) (hSized : Sized cfg) : Fits cfg h.2 := by
  obtain ⟨hPos, hBound, hBytes, hAligned⟩ := hSized
  have hOne : wholeWords cfg.blockSize < 2 ^ 32 :=
    Nat.lt_of_le_of_lt (Nat.le_mul_of_pos_left _ hPos) hBytes
  obtain ⟨hTrue, hLe⟩ := trueBlockSize_eq hOne
  have hAll := osMempoolBytes_eq hPos hBytes
  unfold Fits
  rw [hTrue]
  refine ⟨hPos, hBound, hLe, ?_⟩
  unfold poolHeap at hHeap
  split at hHeap
  · cases hHeap
  · split at hHeap
    · rename_i hNull
      obtain ⟨hAlign, hRoom⟩ := hAligned hNull
      split at hHeap
      · cases hHeap
      · cases hHeap
        rw [hAll]
        exact le_mempoolAligned hAlign hBytes hRoom
    · split at hHeap
      · cases hHeap
      · rename_i hGiven
        split at hHeap
        · cases hHeap
        · cases hHeap
          rw [hAll] at hGiven
          exact Nat.le_of_not_lt hGiven

/-! ## Mutual exclusion -/

/-- The task is in the critical section. -/
def Pc.inside : Pc → Bool
  | .getRead .. | .getWrite .. | .getExit .. | .putLink .. | .putWrite .. | .putExit _ => true
  | _ => false

/-- The mutex for which the task waits. -/
def Pc.waits : Pc → Option Nat
  | .getWait _ h _ | .putWait _ _ h => some h
  | _ => none

structure Exclusive (s : State) : Prop where
  waits : ∀ t, ∀ m ∈ (s.pc t).waits, m = s.hostedPortMutex
  holder : ∀ m t, s.holder m = some t ↔ m = s.hostedPortMutex ∧ (s.pc t).inside = true
  busy : ∀ t, t ∈ s.busy ↔ s.pc t ≠ .idle
  nodup : s.busy.Nodup

section Exclusive

variable {s s' : State} {a : Action}

theorem Exclusive.alone {t t' : Nat} (h : Exclusive s) (hIn : (s.pc t).inside = true)
    (hIn' : (s.pc t').inside = true) : t = t' := by
  have hHeld := (h.holder _ t).mpr ⟨rfl, hIn⟩
  exact Option.some.inj (hHeld.symm.trans ((h.holder _ t').mpr ⟨rfl, hIn'⟩))

/-- A task moves on without entering or leaving the critical section. -/
theorem Exclusive.setPc (h : Exclusive s) (t : Nat) (pc : Pc) (hIn : pc.inside = (s.pc t).inside)
    (hWaits : pc.waits = none) (hOld : s.pc t ≠ .idle) (hNew : pc ≠ .idle) :
    Exclusive (s.setPc t pc) := by
  refine ⟨fun t' => ?_, fun m t' => ?_, fun t' => ?_, h.nodup⟩
  all_goals simp only [State.setPc, Function.update_apply]; split
  · rw [hWaits]
    nofun
  · exact h.waits t'
  · rename_i hEq
    rw [hIn, ← hEq]
    exact h.holder m t'
  · exact h.holder m t'
  · rename_i hEq
    rw [hEq]
    exact iff_of_true ((h.busy t).mpr hOld) hNew
  · exact h.busy t'

/-- A call begins. -/
theorem Exclusive.call (h : Exclusive s) (t : Nat) (pc : Pc) (hIdle : s.pc t = .idle)
    (hIn : pc.inside = false) (hWaits : pc.waits = some s.hostedPortMutex) (hNew : pc ≠ .idle) :
    Exclusive { s.setPc t pc with busy := t :: s.busy } := by
  have hOld : (s.pc t).inside = false := by rw [hIdle]; rfl
  have hNot : t ∉ s.busy := fun hMem => (h.busy t).mp hMem hIdle
  refine ⟨fun t' => ?_, fun m t' => ?_, fun t' => ?_, h.nodup.cons hNot⟩
  all_goals simp only [State.setPc, Function.update_apply]; split
  · rw [hWaits]
    rintro m ⟨⟩
    rfl
  · exact h.waits t'
  · rename_i hEq
    rw [hIn, ← hOld, ← hEq]
    exact h.holder m t'
  · exact h.holder m t'
  · rename_i hEq
    rw [hEq]
    exact iff_of_true List.mem_cons_self hNew
  · rename_i hNe
    rw [List.mem_cons, or_iff_right hNe]
    exact h.busy t'

/-- `xSemaphoreTake`. -/
theorem Exclusive.take {t : Nat} {pc : Pc} (h : Exclusive s) (hOld : s.pc t ≠ .idle)
    (hFree : s.holder s.hostedPortMutex = none) (hIn : pc.inside = true) (hWaits : pc.waits = none)
    (hNew : pc ≠ .idle) :
    Exclusive { s.setPc t pc with
      holder := Function.update s.holder s.hostedPortMutex (some t) } := by
  refine ⟨fun t' => ?_, fun m t' => ?_, fun t' => ?_, h.nodup⟩
  all_goals simp only [State.setPc, Function.update_apply]
  · split
    · rw [hWaits]
      nofun
    · exact h.waits t'
  · by_cases hM : m = s.hostedPortMutex
    · rw [if_pos hM]
      split
      · rename_i hEq
        exact iff_of_true (congrArg some hEq.symm) ⟨hM, hIn⟩
      · rename_i hNe
        refine iff_of_false (fun hSome => hNe (Option.some.inj hSome).symm) fun hBoth => ?_
        -- the mutex was free, so nobody was inside
        have hHeld := (h.holder _ t').mpr ⟨rfl, hBoth.2⟩
        rw [hFree] at hHeld
        cases hHeld
    · rw [if_neg hM]
      exact iff_of_false (fun hHeld => hM ((h.holder m t').mp hHeld).1) fun hBoth => hM hBoth.1
  · split
    · rename_i hEq
      rw [hEq]
      exact iff_of_true ((h.busy t).mpr hOld) hNew
    · exact h.busy t'

/-- `xSemaphoreGive`, at the end of a call. -/
theorem Exclusive.give {t : Nat} (h : Exclusive s) (hIn : (s.pc t).inside = true) :
    Exclusive { s.setPc t .idle with
      holder := Function.update s.holder s.hostedPortMutex none
      busy := s.busy.erase t } := by
  refine ⟨fun t' => ?_, fun m t' => ?_, fun t' => ?_, h.nodup.erase t⟩
  all_goals simp only [State.setPc, Function.update_apply]
  · split
    · nofun
    · exact h.waits t'
  · by_cases hM : m = s.hostedPortMutex
    · rw [if_pos hM]
      refine iff_of_false nofun fun hBoth => ?_
      split at hBoth
      · cases hBoth.2
      · rename_i hNe
        exact hNe (h.alone hBoth.2 hIn)
    · rw [if_neg hM]
      exact iff_of_false (fun hHeld => hM ((h.holder m t').mp hHeld).1) fun hBoth => hM hBoth.1
  · rw [h.nodup.mem_erase_iff]
    split
    · rename_i hEq
      exact iff_of_false (fun hBoth => hBoth.1 hEq) fun hNot => hNot rfl
    · rename_i hNe
      rw [and_iff_right hNe]
      exact h.busy t'

/-- `OS_INIT_CRITICAL` while no task is in a call. -/
theorem Exclusive.init (h : Exclusive s) (hBusy : s.busy = []) (mutexOk : Bool) :
    Exclusive (osInitCritical s mutexOk) := by
  have hIdle : ∀ t, s.pc t = .idle := by
    intro t
    by_contra hNot
    have hMem := (h.busy t).mpr hNot
    rw [hBusy] at hMem
    cases hMem
  have hKept : (osInitCritical s mutexOk).pc = s.pc ∧
      (osInitCritical s mutexOk).holder = s.holder ∧ (osInitCritical s mutexOk).busy = s.busy := by
    unfold osInitCritical
    split <;> exact ⟨rfl, rfl, rfl⟩
  obtain ⟨hPc, hHolder, hSame⟩ := hKept
  refine ⟨fun t => ?_, fun m t => ?_, ?_, ?_⟩
  · rw [hPc, hIdle]
    nofun
  · rw [hHolder, hPc, h.holder, hIdle]
    exact iff_of_false (fun hBoth => nomatch hBoth.2) fun hBoth => nomatch hBoth.2
  · rw [hPc, hSame]
    exact h.busy
  · rw [hSame]
    exact h.nodup

theorem Exclusive.create {cfg : PoolConfig} {m : Memory} (h : Exclusive s)
    (hCareful : Careful s (.create cfg m)) (hStep : create s cfg m = some s') : Exclusive s' := by
  simp only [Mempool.create] at hStep
  split at hStep
  · cases hStep
    exact h
  · rename_i heap heapBytes hHeap
    simp only [Option.ite_none_right_eq_some, osMempoolInit] at hStep
    obtain ⟨-, hEq⟩ := hStep
    split at hEq
    · cases hEq
      exact h
    · rename_i hSize
      have hInit := h.init (hCareful _ hHeap hSize).1 m.mutexOk
      split at hEq
      · cases hEq
        exact hInit
      · cases hEq
        exact ⟨hInit.waits, hInit.holder, hInit.busy, hInit.nodup⟩

theorem Exclusive.enter {t : Nat} (h : Exclusive s) (hStep : enter s t = some s') :
    Exclusive s' := by
  simp only [Mempool.enter] at hStep
  split at hStep
  · rename_i p m clear hPc
    simp only [Option.ite_none_right_eq_some] at hStep
    obtain ⟨hFree, hEq⟩ := hStep
    cases hEq
    cases h.waits t m (by rw [hPc]; rfl)
    exact h.take (by rw [hPc]; nofun) hFree.2 rfl rfl nofun
  · rename_i p block m hPc
    simp only [Option.ite_none_right_eq_some] at hStep
    obtain ⟨hFree, hEq⟩ := hStep
    cases hEq
    cases h.waits t m (by rw [hPc]; rfl)
    exact h.take (by rw [hPc]; nofun) hFree.2 rfl rfl nofun
  · cases hStep

theorem Exclusive.critical {t : Nat} (h : Exclusive s) (hStep : critical s t = some s') :
    Exclusive s' := by
  simp only [Mempool.critical] at hStep
  split at hStep
  · rename_i p clear hPc
    obtain ⟨pl, -, rfl⟩ := Option.map_eq_some_iff.mp hStep
    have hNext := h.setPc t
      (if pl.mpNumFree = 0 then .getExit p 0 clear
        else .getWrite p pl.first (s.mem pl.first) clear)
      (by rw [hPc]; split <;> rfl) (by split <;> rfl) (by rw [hPc]; nofun) (by split <;> nofun)
    exact ⟨hNext.waits, hNext.holder, hNext.busy, hNext.nodup⟩
  · rename_i p block next clear hPc
    obtain ⟨pl, -, rfl⟩ := Option.map_eq_some_iff.mp hStep
    have hNext := h.setPc t (.getExit p block clear) (by rw [hPc]; rfl) rfl
      (by rw [hPc]; nofun) nofun
    exact ⟨hNext.waits, hNext.holder, hNext.busy, hNext.nodup⟩
  · rename_i p block hPc
    obtain ⟨pl, -, rfl⟩ := Option.map_eq_some_iff.mp hStep
    have hNext := h.setPc t (.putWrite p block) (by rw [hPc]; rfl) rfl
      (by rw [hPc]; nofun) nofun
    exact ⟨hNext.waits, hNext.holder, hNext.busy, hNext.nodup⟩
  · rename_i p block hPc
    obtain ⟨pl, -, rfl⟩ := Option.map_eq_some_iff.mp hStep
    have hNext := h.setPc t (.putExit p) (by rw [hPc]; rfl) rfl
      (by rw [hPc]; nofun) nofun
    exact ⟨hNext.waits, hNext.holder, hNext.busy, hNext.nodup⟩
  · cases hStep

theorem Exclusive.exit {t : Nat} (h : Exclusive s) (hStep : exit s t = some s') :
    Exclusive s' := by
  simp only [Mempool.exit] at hStep
  split at hStep
  · rename_i p block clear hPc
    have hNext := h.give (t := t) (by rw [hPc]; rfl)
    split at hStep
    · cases hStep
      exact hNext
    · cases hStep
      exact ⟨hNext.waits, hNext.holder, hNext.busy, hNext.nodup⟩
  · rename_i p hPc
    cases hStep
    exact h.give (by rw [hPc]; rfl)
  · cases hStep

theorem mutex_step (h : Exclusive s) (hCareful : Careful s a) (hStep : step s a = some s') :
    Exclusive s' := by
  cases a with
  | create cfg m => exact h.create hCareful hStep
  | destroy p =>
    simp only [step, destroy, Option.ite_none_right_eq_some] at hStep
    obtain ⟨pl, -, rfl⟩ := Option.map_eq_some_iff.mp hStep.2
    exact ⟨h.waits, h.holder, h.busy, h.nodup⟩
  | alloc t p nbytes needMemset =>
    simp only [step, alloc, Option.ite_none_right_eq_some] at hStep
    obtain ⟨hIdle, hSome⟩ := hStep
    obtain ⟨pl, -, hEq⟩ := Option.map_eq_some_iff.mp hSome
    split at hEq
    · cases hEq
      exact h
    · cases hEq
      exact h.call _ _ hIdle rfl rfl nofun
  | free t p block =>
    simp only [step, free, Option.ite_none_right_eq_some] at hStep
    obtain ⟨⟨hIdle, -⟩, hSome⟩ := hStep
    obtain ⟨pl, -, hEq⟩ := Option.bind_eq_some_iff.mp hSome
    simp only [Option.ite_none_right_eq_some] at hEq
    cases hEq.2
    have hNext := h.call t (.putWait p block s.hostedPortMutex) hIdle rfl rfl nofun
    exact ⟨hNext.waits, hNext.holder, hNext.busy, hNext.nodup⟩
  | enter t => exact h.enter hStep
  | critical t => exact h.critical hStep
  | exit t => exact h.exit hStep
  | clientWrite p block offset val =>
    simp only [step, clientWrite] at hStep
    obtain ⟨pl, -, hEq⟩ := Option.bind_eq_some_iff.mp hStep
    simp only [Option.ite_none_right_eq_some] at hEq
    cases hEq.2
    exact ⟨h.waits, h.holder, h.busy, h.nodup⟩

end Exclusive

/-! ## One pool -/

/-- The free list and the outstanding blocks are the blocks of the pool. -/
structure PoolInv (mem : Nat → Nat) (pl : Pool) : Prop where
  free : ∃ free, Chain mem pl.first free ∧ pl.mpNumFree = free.length ∧
    (free ++ pl.outstanding).Perm (blocks pl.heap (trueBlockSize pl.blockSize) pl.numBlocks)
  heap : pl.heap ≠ 0
  size : 0 < pl.blockSize ∧ pl.blockSize ≤ trueBlockSize pl.blockSize
  numBlocks : pl.numBlocks < 2 ^ 16
  fits : pl.numBlocks * trueBlockSize pl.blockSize ≤ pl.heapBytes

section Fields

variable {pl : Pool} {block next : Nat}

theorem Pool.get_live : (pl.get block next).live = pl.live := by cases pl; rfl

theorem Pool.get_heap : (pl.get block next).heap = pl.heap := by cases pl; rfl

theorem Pool.get_heapBytes : (pl.get block next).heapBytes = pl.heapBytes := by cases pl; rfl

theorem Pool.get_blockSize : (pl.get block next).blockSize = pl.blockSize := by cases pl; rfl

theorem Pool.get_outstanding : (pl.get block next).outstanding = block :: pl.outstanding := by
  cases pl; rfl

end Fields

/-- `b` is a block of the pool. -/
def Pool.HasBlock (pl : Pool) (b : Nat) : Prop :=
  b ∈ blocks pl.heap (trueBlockSize pl.blockSize) pl.numBlocks

section Pool

variable {mem mem' : Nat → Nat} {pl : Pool} {b b' : Nat}

theorem PoolInv.hasBlock (h : PoolInv mem pl) (hMem : b ∈ pl.outstanding) : pl.HasBlock b := by
  obtain ⟨free, -, -, hPerm⟩ := h.free
  exact hPerm.subset (List.mem_append_right _ hMem)

theorem PoolInv.inside (h : PoolInv mem pl) (hBlock : pl.HasBlock b) :
    pl.heap ≤ b ∧ b + pl.blockSize ≤ pl.heap + pl.heapBytes := by
  obtain ⟨hLow, hHigh⟩ := blocks_inside hBlock
  have hFits := h.fits
  have hSize := h.size.2
  omega

theorem PoolInv.apart (h : PoolInv mem pl) (hBlock : pl.HasBlock b) (hBlock' : pl.HasBlock b')
    (hNe : b ≠ b') : b + pl.blockSize ≤ b' ∨ b' + pl.blockSize ≤ b := by
  have hSize := h.size.2
  rcases blocks_apart hBlock hBlock' hNe with hLow | hHigh
  · exact .inl (by omega)
  · exact .inr (by omega)

theorem PoolInv.nodup (h : PoolInv mem pl) {free : List Nat}
    (hPerm : (free ++ pl.outstanding).Perm
      (blocks pl.heap (trueBlockSize pl.blockSize) pl.numBlocks)) :
    (free ++ pl.outstanding).Nodup := by
  have hSize := h.size
  exact hPerm.nodup_iff.mpr (nodup_blocks (by omega))

/-- Only what the free blocks hold matters. -/
theorem PoolInv.congr (h : PoolInv mem pl)
    (hSame : ∀ b, pl.HasBlock b → b ∉ pl.outstanding → mem' b = mem b) : PoolInv mem' pl := by
  obtain ⟨free, hChain, hCount, hPerm⟩ := h.free
  have hNodup := h.nodup hPerm
  refine ⟨⟨free, hChain.congr fun b hMem => ?_, hCount, hPerm⟩, h.heap, h.size, h.numBlocks, h.fits⟩
  refine hSame b (hPerm.subset (List.mem_append_left _ hMem)) fun hOut => ?_
  exact (List.nodup_append.mp hNodup).2.2 b hMem b hOut rfl

/-- A block is free exactly as long as fewer than all are outstanding. -/
theorem PoolInv.count (h : PoolInv mem pl) :
    pl.mpNumFree + pl.outstanding.length = pl.numBlocks := by
  obtain ⟨free, -, hCount, hPerm⟩ := h.free
  have hLength := hPerm.length_eq
  rw [List.length_append, length_blocks] at hLength
  omega

/-- The first free block. -/
theorem PoolInv.first (h : PoolInv mem pl) (hFree : pl.mpNumFree ≠ 0) :
    pl.first ≠ 0 ∧ pl.HasBlock pl.first ∧ pl.first ∉ pl.outstanding := by
  obtain ⟨free, hChain, hCount, hPerm⟩ := h.free
  obtain ⟨rest, rfl, hNe, -⟩ := hChain.exists_cons (hCount ▸ hFree)
  have hNodup := h.nodup hPerm
  refine ⟨hNe, hPerm.subset (List.mem_append_left _ List.mem_cons_self), fun hOut => ?_⟩
  exact (List.nodup_append.mp hNodup).2.2 _ List.mem_cons_self _ hOut rfl

theorem PoolInv.get (h : PoolInv mem pl) (hFree : pl.mpNumFree ≠ 0) :
    PoolInv mem (pl.get pl.first (mem pl.first)) := by
  have hTotal := h.count
  have hBound := h.numBlocks
  obtain ⟨free, hChain, hCount, hPerm⟩ := h.free
  obtain ⟨rest, rfl, -, hRest⟩ := hChain.exists_cons (hCount ▸ hFree)
  have hLess : (pl.mpNumFree + 2 ^ 16 - 1) % 2 ^ 16 = rest.length := by
    rw [List.length_cons] at hCount
    omega
  unfold Pool.get
  rw [hLess]
  exact ⟨⟨rest, hRest, rfl, List.perm_middle.trans hPerm⟩, h.heap, h.size, h.numBlocks, h.fits⟩

theorem PoolInv.put (h : PoolInv mem pl) (hMem : b ∈ pl.outstanding) (hLink : mem b = pl.first) :
    PoolInv mem (pl.put b) := by
  have hTotal := h.count
  have hBound := h.numBlocks
  have hPos := List.length_pos_of_mem hMem
  have hInside := h.inside (h.hasBlock hMem)
  have hHeap := h.heap
  have hNe : b ≠ 0 := by omega
  obtain ⟨free, hChain, hCount, hPerm⟩ := h.free
  have hMore : (pl.mpNumFree + 1) % 2 ^ 16 = free.length + 1 := by omega
  have hAll : (b :: free ++ pl.outstanding.erase b).Perm
      (blocks pl.heap (trueBlockSize pl.blockSize) pl.numBlocks) := by
    refine List.Perm.trans ?_ hPerm
    exact List.perm_middle.symm.trans (List.Perm.append_left free (List.perm_cons_erase hMem).symm)
  unfold Pool.put
  rw [hMore]
  exact ⟨⟨b :: free, .cons hNe (hLink ▸ hChain), rfl, hAll⟩, h.heap, h.size, h.numBlocks, h.fits⟩

/-- `os_mempool_init` threads the blocks of a pool that fits. -/
theorem PoolInv.init
    (hLinked : mem' = linkBlocks mem pl.heap (trueBlockSize pl.blockSize) (pl.numBlocks - 1))
    (hFirst : pl.first = pl.heap) (hOut : pl.outstanding = [])
    (hFree : pl.mpNumFree = pl.numBlocks) (hHeap : pl.heap ≠ 0) (hNum : 0 < pl.numBlocks)
    (hBound : pl.numBlocks < 2 ^ 16)
    (hSize : 0 < pl.blockSize ∧ pl.blockSize ≤ trueBlockSize pl.blockSize)
    (hFits : pl.numBlocks * trueBlockSize pl.blockSize ≤ pl.heapBytes) : PoolInv mem' pl := by
  have hAll : pl.numBlocks - 1 + 1 = pl.numBlocks := by omega
  have hChain : Chain mem' pl.heap (blocks pl.heap (trueBlockSize pl.blockSize) pl.numBlocks) := by
    rw [hLinked, ← hAll]
    exact chain_linkBlocks (by omega) hHeap
  refine ⟨⟨blocks pl.heap (trueBlockSize pl.blockSize) pl.numBlocks, ?_, ?_, ?_⟩, hHeap, hSize,
    hBound, hFits⟩
  · rw [hFirst]
    exact hChain
  · rw [hFree, length_blocks]
  · rw [hOut, List.append_nil]

end Pool

/-! ## All pools -/

section Heaps

variable {s : State} {p q : Nat} {pl pl' ql : Pool} {b b' : Nat}

theorem livePool_iff : s.livePool p = some pl ↔ s.pools[p]? = some pl ∧ pl.live = true := by
  simp [State.livePool, Option.filter_eq_some_iff]

theorem livePool_setPool_self (h : s.livePool p = some pl) (hLive : pl'.live = true) :
    (s.setPool p pl').livePool p = some pl' := by
  obtain ⟨hPool, -⟩ := livePool_iff.mp h
  refine livePool_iff.mpr ⟨?_, hLive⟩
  exact List.getElem?_set_self (List.getElem?_eq_some_iff.mp hPool).1

theorem livePool_setPool_of_ne (hNe : q ≠ p) : (s.setPool p pl').livePool q = s.livePool q := by
  unfold State.livePool
  rw [State.setPool, List.getElem?_set_ne (Ne.symm hNe)]

/-- Every live pool is in order, and their heaps do not overlap. -/
structure Heaps (s : State) : Prop where
  pool : ∀ p pl, s.livePool p = some pl → PoolInv s.mem pl
  apart : ∀ p q pl ql, p ≠ q → s.livePool p = some pl → s.livePool q = some ql →
    Apart pl.heap pl.heapBytes ql

theorem Heaps.blocks_apart (h : Heaps s) (hp : s.livePool p = some pl) (hq : s.livePool q = some ql)
    (hBlock : pl.HasBlock b) (hBlock' : ql.HasBlock b') (hNe : p ≠ q ∨ b ≠ b') :
    b + pl.blockSize ≤ b' ∨ b' + ql.blockSize ≤ b := by
  by_cases hEq : p = q
  · subst hEq
    cases hp.symm.trans hq
    exact (h.pool p pl hp).apart hBlock hBlock' (hNe.resolve_left fun hNot => hNot rfl)
  · have hIn := (h.pool p pl hp).inside hBlock
    have hIn' := (h.pool q ql hq).inside hBlock'
    rcases h.apart p q pl ql hEq hp hq with hLow | hHigh
    · exact .inl (by omega)
    · exact .inr (by omega)

/-- What is written into an outstanding block is not read from a free one. -/
theorem Heaps.not_read (h : Heaps s) (hp : s.livePool p = some pl) (hOut : b ∈ pl.outstanding)
    (hq : s.livePool q = some ql) (hBlock' : ql.HasBlock b') (hFree : b' ∉ ql.outstanding) :
    b' < b ∨ b + pl.blockSize ≤ b' := by
  have hNe : p ≠ q ∨ b ≠ b' := by
    by_cases hEq : p = q
    · subst hEq
      cases hp.symm.trans hq
      refine .inr ?_
      rintro rfl
      exact hFree hOut
    · exact .inl hEq
  have hSize := (h.pool q ql hq).size.1
  rcases h.blocks_apart hp hq ((h.pool p pl hp).hasBlock hOut) hBlock' hNe with hLow | hHigh
  · exact .inr hLow
  · exact .inl (by omega)

theorem Heaps.write {mem : Nat → Nat} (h : Heaps s) (hp : s.livePool p = some pl)
    (hOut : b ∈ pl.outstanding)
    (hSame : ∀ a, a < b ∨ b + pl.blockSize ≤ a → mem a = s.mem a) :
    Heaps { s with mem := mem } := by
  refine ⟨fun q ql hq => ?_, h.apart⟩
  exact (h.pool q ql hq).congr fun b' hBlock' hFree =>
    hSame b' (h.not_read hp hOut hq hBlock' hFree)

/-- A pool changes, but for its heap. -/
theorem Heaps.setPool (h : Heaps s) (hp : s.livePool p = some pl) (hLive : pl'.live = true)
    (hInv : PoolInv s.mem pl') (hHeap : pl'.heap = pl.heap)
    (hBytes : pl'.heapBytes = pl.heapBytes) : Heaps (s.setPool p pl') := by
  have hOld : ∀ q ql, (s.setPool p pl').livePool q = some ql →
      (q = p ∧ ql = pl') ∨ (q ≠ p ∧ s.livePool q = some ql) := by
    intro q ql hq
    by_cases hEq : q = p
    · subst hEq
      rw [livePool_setPool_self hp hLive] at hq
      exact .inl ⟨rfl, (Option.some.inj hq).symm⟩
    · rw [livePool_setPool_of_ne hEq] at hq
      exact .inr ⟨hEq, hq⟩
  refine ⟨fun q ql hq => ?_, fun q r ql rl hNe hq hr => ?_⟩
  · rcases hOld q ql hq with ⟨-, rfl⟩ | ⟨-, hq⟩
    · exact hInv
    · exact h.pool q ql hq
  · rcases hOld q ql hq with ⟨rfl, rfl⟩ | ⟨-, hq'⟩
    · rcases hOld r rl hr with ⟨rfl, -⟩ | ⟨-, hr'⟩
      · exact absurd rfl hNe
      · rw [hHeap, hBytes]
        exact h.apart q r pl rl hNe hp hr'
    · rcases hOld r rl hr with ⟨rfl, rfl⟩ | ⟨-, hr'⟩
      · have hApart := h.apart q r ql pl hNe hq' hp
        unfold Apart at hApart ⊢
        rwa [hHeap, hBytes]
      · exact h.apart q r ql rl hNe hq' hr'

theorem livePool_append : (s.pools ++ [pl])[q]? = some ql ↔
    s.pools[q]? = some ql ∨ q = s.pools.length ∧ ql = pl := by
  rcases Nat.lt_trichotomy q s.pools.length with hLess | rfl | hMore
  · rw [List.getElem?_append_left hLess]
    exact ⟨.inl, fun hOr => hOr.resolve_right fun hEq => by omega⟩
  · rw [List.getElem?_concat_length, List.getElem?_eq_none (Nat.le_refl _)]
    constructor
    · intro hEq
      exact .inr ⟨rfl, (Option.some.inj hEq).symm⟩
    · rintro (hNone | ⟨-, rfl⟩)
      · cases hNone
      · rfl
  · have hNone : (s.pools ++ [pl])[q]? = none := by
      refine List.getElem?_eq_none ?_
      rw [List.length_append, List.length_singleton]
      omega
    rw [hNone, List.getElem?_eq_none (by omega)]
    refine ⟨fun hEq => (nomatch hEq), ?_⟩
    rintro (hEq | ⟨hEq, -⟩)
    · cases hEq
    · omega

/-- A pool is created in memory that no pool uses. -/
theorem Heaps.append {mem : Nat → Nat} (h : Heaps s) (hNew : PoolInv mem pl)
    (hApart : ∀ ql ∈ s.pools, ql.live = true → Apart pl.heap pl.heapBytes ql)
    (hSame : ∀ a, a < pl.heap ∨ pl.heap + pl.heapBytes ≤ a → mem a = s.mem a) :
    Heaps { s with mem := mem, pools := s.pools ++ [pl] } := by
  have hOld : ∀ q ql, s.pools[q]? = some ql → ql.live = true → Apart pl.heap pl.heapBytes ql :=
    fun q ql hq => hApart ql (List.mem_of_getElem? hq)
  refine ⟨fun q ql hq => ?_, fun q r ql rl hNe hq hr => ?_⟩
  · obtain ⟨hAt, hLive⟩ := livePool_iff.mp hq
    rcases livePool_append.mp hAt with hAt | ⟨-, rfl⟩
    · have hInv := h.pool q ql (livePool_iff.mpr ⟨hAt, hLive⟩)
      refine hInv.congr fun b hBlock _ => hSame b ?_
      have hInside := hInv.inside hBlock
      have hSize := hInv.size.1
      have hEither := hOld q ql hAt hLive
      unfold Apart at hEither
      omega
    · exact hNew
  · obtain ⟨hAt, hLive⟩ := livePool_iff.mp hq
    obtain ⟨hAt', hLive'⟩ := livePool_iff.mp hr
    rcases livePool_append.mp hAt with hFirst | ⟨rfl, rfl⟩
    · rcases livePool_append.mp hAt' with hSecond | ⟨-, rfl⟩
      · exact h.apart q r ql rl hNe (livePool_iff.mpr ⟨hFirst, hLive⟩)
          (livePool_iff.mpr ⟨hSecond, hLive'⟩)
      · exact (hOld q ql hFirst hLive).symm
    · rcases livePool_append.mp hAt' with hSecond | ⟨rfl, -⟩
      · exact hOld r rl hSecond hLive'
      · exact absurd rfl hNe

end Heaps

/-! ## What a task knows in a call -/

/-- The task has the block in a call. -/
def Kept (s : State) (t p b : Nat) : Prop :=
  s.keeper b = .task t ∧ ∃ pl, s.livePool p = some pl ∧ b ∈ pl.outstanding

/-- The bytes to clear fit into a block. -/
def Clears (s : State) (p clear : Nat) : Prop := ∃ pl, s.livePool p = some pl ∧ clear ≤ pl.blockSize

def PcInv (s : State) (t : Nat) : Pc → Prop
  | .idle => True
  | .getWait p _ clear | .getRead p clear => Clears s p clear
  | .getWrite p block next clear => Clears s p clear ∧
      ∃ pl, s.livePool p = some pl ∧ pl.mpNumFree ≠ 0 ∧ pl.first = block ∧ s.mem block = next
  | .getExit p block clear => Clears s p clear ∧ (block ≠ 0 → Kept s t p block)
  | .putWait p block _ | .putLink p block => Kept s t p block
  | .putWrite p block => Kept s t p block ∧ ∀ pl, s.livePool p = some pl → s.mem block = pl.first
  | .putExit p => ∃ pl, s.livePool p = some pl

structure Inv (s : State) : Prop where
  exclusive : Exclusive s
  heaps : Heaps s
  tasks : ∀ t, PcInv s t (s.pc t)
  allocs : ∀ r ∈ s.allocs, r.ok = true ↔ r.outstanding < r.numBlocks

/-- The cell whose contents the task relies on. -/
def Pc.reads : Pc → Option Nat
  | .getWrite _ block _ _ | .putWrite _ block => some block
  | _ => none

section Tasks

variable {s s' : State} {t p : Nat} {pc : Pc}

theorem reads_of_outside (hOut : pc.inside = false) : pc.reads = none := by
  cases pc <;> first | rfl | cases hOut

/-- What another task does. Its pool may only change under a task that is not in the critical
section. -/
theorem PcInv.frame (h : PcInv s t pc)
    (hLive : ∀ p pl, pc.pool = some p → s.livePool p = some pl → ∃ pl', s'.livePool p = some pl' ∧
      pl'.blockSize = pl.blockSize ∧ (pc.inside = true → pl' = pl))
    (hKept : ∀ p b, pc.pool = some p → Kept s t p b → Kept s' t p b)
    (hMem : ∀ b ∈ pc.reads, s'.mem b = s.mem b) : PcInv s' t pc := by
  have hClears : ∀ p clear, pc.pool = some p → Clears s p clear → Clears s' p clear := by
    rintro p clear hPool ⟨pl, hp, hLe⟩
    obtain ⟨pl', hp', hSize, -⟩ := hLive p pl hPool hp
    exact ⟨pl', hp', hSize ▸ hLe⟩
  cases pc with
  | idle => trivial
  | getWait p m clear => exact hClears p clear rfl h
  | getRead p clear => exact hClears p clear rfl h
  | getWrite p block next clear =>
    obtain ⟨hClear, pl, hp, hFree, hFirst, hNext⟩ := h
    obtain ⟨pl', hp', -, hSame⟩ := hLive p pl rfl hp
    cases hSame rfl
    exact ⟨hClears p clear rfl hClear, _, hp', hFree, hFirst, (hMem block rfl).trans hNext⟩
  | getExit p block clear =>
    exact ⟨hClears p clear rfl h.1, fun hNe => hKept p block rfl (h.2 hNe)⟩
  | putWait p block m => exact hKept p block rfl h
  | putLink p block => exact hKept p block rfl h
  | putWrite p block =>
    refine ⟨hKept p block rfl h.1, fun pl' hp' => ?_⟩
    obtain ⟨-, pl, hp, -⟩ := h.1
    obtain ⟨pl'', hp'', -, hSame⟩ := hLive p pl rfl hp
    cases hSame rfl
    cases hp'.symm.trans hp''
    exact (hMem block rfl).trans (h.2 _ hp)
  | putExit p =>
    obtain ⟨pl, hp⟩ := h
    obtain ⟨pl', hp', -⟩ := hLive p pl rfl hp
    exact ⟨pl', hp'⟩

/-- The pools stay as they are. -/
theorem PcInv.frame_keeper (h : PcInv s t pc) (hLive : ∀ p, s'.livePool p = s.livePool p)
    (hKeeper : ∀ b, s.keeper b = .task t → s'.keeper b = .task t)
    (hMem : ∀ b ∈ pc.reads, s'.mem b = s.mem b) : PcInv s' t pc := by
  refine h.frame (fun p pl _ hp => ⟨pl, (hLive p).trans hp, rfl, fun _ => rfl⟩) ?_ hMem
  rintro p b - ⟨hKeep, pl, hp, hOut⟩
  exact ⟨hKeeper b hKeep, pl, (hLive p).trans hp, hOut⟩

theorem forall_update {P : Nat → Pc → Prop} {f : Nat → Pc} (hSelf : P t pc)
    (hOther : ∀ t', t' ≠ t → P t' (f t')) (t' : Nat) : P t' (Function.update f t pc t') := by
  by_cases hEq : t' = t
  · rw [hEq, Function.update_self]
    exact hSelf
  · rw [Function.update_of_ne hEq]
    exact hOther t' hEq

/-- With one task in the critical section the others are outside. -/
theorem Exclusive.outside {t' : Nat} (h : Exclusive s) (hIn : (s.pc t).inside = true)
    (hNe : t' ≠ t) : (s.pc t').inside = false := by
  by_contra hIn'
  exact hNe (h.alone hIn ((Bool.not_eq_false _).mp hIn')).symm

theorem inv_alloc {nbytes : Nat} {needMemset : Bool} (h : Inv s)
    (hStep : alloc s t p nbytes needMemset = some s') :
    Heaps s' ∧ (∀ t, PcInv s' t (s'.pc t)) ∧ s'.allocs = s.allocs := by
  simp only [alloc, Option.ite_none_right_eq_some] at hStep
  obtain ⟨-, hSome⟩ := hStep
  obtain ⟨pl, hp, hEq⟩ := Option.map_eq_some_iff.mp hSome
  split at hEq
  · cases hEq
    exact ⟨h.heaps, h.tasks, rfl⟩
  · rename_i hFits
    cases hEq
    refine ⟨⟨h.heaps.pool, h.heaps.apart⟩, forall_update ?_ fun t' _ => h.tasks t', rfl⟩
    refine ⟨pl, hp, ?_⟩
    split <;> omega

theorem inv_free {block : Nat} (h : Inv s) (hStep : free s t p block = some s') :
    Heaps s' ∧ (∀ t, PcInv s' t (s'.pc t)) ∧ s'.allocs = s.allocs := by
  simp only [free, Option.ite_none_right_eq_some] at hStep
  obtain ⟨⟨-, hClient⟩, hSome⟩ := hStep
  obtain ⟨pl, hp, hEq⟩ := Option.bind_eq_some_iff.mp hSome
  simp only [Option.ite_none_right_eq_some] at hEq
  obtain ⟨hOut, hEq⟩ := hEq
  cases hEq
  refine ⟨⟨h.heaps.pool, h.heaps.apart⟩, forall_update ?_ fun t' _ => ?_, rfl⟩
  · exact ⟨Function.update_self .., pl, hp, hOut⟩
  · refine (h.tasks t').frame_keeper (fun _ => rfl) (fun b hKeep => ?_) fun _ _ => rfl
    refine (Function.update_of_ne ?_ ..).trans hKeep
    rintro rfl
    cases hClient.symm.trans hKeep

theorem inv_enter (h : Inv s) (hStep : enter s t = some s') :
    Heaps s' ∧ (∀ t, PcInv s' t (s'.pc t)) ∧ s'.allocs = s.allocs := by
  have hSelf := h.tasks t
  simp only [enter] at hStep
  split at hStep
  · rename_i p m clear hPc
    rw [hPc] at hSelf
    simp only [Option.ite_none_right_eq_some] at hStep
    cases hStep.2
    exact ⟨⟨h.heaps.pool, h.heaps.apart⟩, forall_update hSelf fun t' _ => h.tasks t', rfl⟩
  · rename_i p block m hPc
    rw [hPc] at hSelf
    simp only [Option.ite_none_right_eq_some] at hStep
    cases hStep.2
    exact ⟨⟨h.heaps.pool, h.heaps.apart⟩, forall_update hSelf fun t' _ => h.tasks t', rfl⟩
  · cases hStep

/-- The first half of `os_memblock_get`. -/
theorem inv_getRead {clear : Nat} (h : Inv s) (hPc : s.pc t = .getRead p clear)
    (hStep : critical s t = some s') :
    Heaps s' ∧ (∀ t, PcInv s' t (s'.pc t)) ∧
      ∀ r ∈ s'.allocs, r.ok = true ↔ r.outstanding < r.numBlocks := by
  have hSelf := h.tasks t
  rw [hPc] at hSelf
  simp only [critical, hPc] at hStep
  obtain ⟨pl, hp, hEq⟩ := Option.map_eq_some_iff.mp hStep
  have hInv := h.heaps.pool p pl hp
  have hCount := hInv.count
  cases hEq
  refine ⟨⟨h.heaps.pool, h.heaps.apart⟩, forall_update ?_ fun t' _ => h.tasks t', ?_⟩
  · split
    · exact ⟨hSelf, fun hNe => absurd rfl hNe⟩
    · rename_i hFree
      exact ⟨hSelf, pl, hp, hFree, rfl, rfl⟩
  · intro r hMem
    rcases List.mem_append.mp hMem with hOld | hNew
    · exact h.allocs r hOld
    · cases List.mem_singleton.mp hNew
      by_cases hFree : pl.mpNumFree = 0
      · refine iff_of_false ?_ (show ¬ pl.outstanding.length < pl.numBlocks by omega)
        simp [hFree]
      · refine iff_of_true ?_ (show pl.outstanding.length < pl.numBlocks by omega)
        simp [hFree, (hInv.first hFree).1]

/-- A pool changes while its other tasks wait for the mutex. -/
theorem Inv.frame_setPool {pl pl' : Pool} {t' : Nat} (h : Inv s) (hIn : (s.pc t).inside = true)
    (hNe : t' ≠ t) (hp : s.livePool p = some pl) (hLive : pl'.live = true)
    (hSize : pl'.blockSize = pl.blockSize)
    (hPools : ∀ q, s'.livePool q = (s.setPool p pl').livePool q)
    (hKeeper : ∀ q b, Kept s t' q b → s'.keeper b = .task t')
    (hOut : ∀ b, Kept s t' p b → b ∈ pl'.outstanding) : PcInv s' t' (s.pc t') := by
  have hOutside := h.exclusive.outside hIn hNe
  have hNew := livePool_setPool_self hp hLive
  refine (h.tasks t').frame (fun q ql _ hq => ?_) (fun q b _ hKept => ?_) ?_
  · by_cases hEq : q = p
    · subst hEq
      obtain rfl := Option.some.inj (hp.symm.trans hq)
      exact ⟨pl', (hPools q).trans hNew, hSize, fun hTrue => nomatch hOutside.symm.trans hTrue⟩
    · exact ⟨ql, (hPools q).trans ((livePool_setPool_of_ne hEq).trans hq), rfl, fun _ => rfl⟩
  · refine ⟨hKeeper q b hKept, ?_⟩
    by_cases hEq : q = p
    · subst hEq
      exact ⟨pl', (hPools q).trans hNew, hOut b hKept⟩
    · obtain ⟨-, ql, hq, hMem⟩ := hKept
      exact ⟨ql, (hPools q).trans ((livePool_setPool_of_ne hEq).trans hq), hMem⟩
  · rw [reads_of_outside hOutside]
    nofun

/-- The second half. -/
theorem inv_getWrite {block next clear : Nat} (h : Inv s)
    (hPc : s.pc t = .getWrite p block next clear) (hStep : critical s t = some s') :
    Heaps s' ∧ (∀ t, PcInv s' t (s'.pc t)) ∧ s'.allocs = s.allocs := by
  have hSelf := h.tasks t
  rw [hPc] at hSelf
  obtain ⟨⟨pl', hp', hClear⟩, pl, hp, hFree, rfl, rfl⟩ := hSelf
  obtain rfl := Option.some.inj (hp.symm.trans hp')
  simp only [critical, hPc, hp, Option.map_some, Option.some.injEq] at hStep
  obtain ⟨-, hBlock, hNotOut⟩ := (h.heaps.pool p pl hp).first hFree
  have hLive : (pl.get pl.first (s.mem pl.first)).live = true :=
    Pool.get_live.trans (livePool_iff.mp hp).2
  have hHeaps := h.heaps.setPool hp hLive ((h.heaps.pool p pl hp).get hFree) Pool.get_heap
    Pool.get_heapBytes
  have hNew := livePool_setPool_self hp hLive
  subst hStep
  refine ⟨⟨hHeaps.pool, hHeaps.apart⟩, forall_update ?_ fun t' hNe => ?_, rfl⟩
  · refine ⟨⟨_, hNew, ?_⟩, fun _ => ⟨Function.update_self .., _, hNew, ?_⟩⟩
    · rw [Pool.get_blockSize]
      exact hClear
    · rw [Pool.get_outstanding]
      exact List.mem_cons_self
  · refine h.frame_setPool (by rw [hPc]; rfl) hNe hp hLive Pool.get_blockSize (fun _ => rfl)
      (fun q b hKept => ?_) fun b hKept => ?_
    · -- the block was free, and what another task has is outstanding
      obtain ⟨hKeep, ql, hq, hOut⟩ := hKept
      have hApart := h.heaps.not_read hq hOut hp hBlock hNotOut
      have hSize := (h.heaps.pool q ql hq).size.1
      refine (Function.update_of_ne ?_ ..).trans hKeep
      omega
    · obtain ⟨-, ql, hq, hOut⟩ := hKept
      obtain rfl := Option.some.inj (hp.symm.trans hq)
      rw [Pool.get_outstanding]
      exact List.mem_cons_of_mem _ hOut

/-- The first half of `os_memblock_put`. -/
theorem inv_putLink {block : Nat} (h : Inv s) (hPc : s.pc t = .putLink p block)
    (hStep : critical s t = some s') :
    Heaps s' ∧ (∀ t, PcInv s' t (s'.pc t)) ∧ s'.allocs = s.allocs := by
  have hSelf := h.tasks t
  rw [hPc] at hSelf
  obtain ⟨hKeep, pl, hp, hOut⟩ := hSelf
  simp only [critical, hPc, hp, Option.map_some, Option.some.injEq] at hStep
  subst hStep
  have hSize := (h.heaps.pool p pl hp).size.1
  have hSame : ∀ a, a < block ∨ block + pl.blockSize ≤ a →
      Function.update s.mem block pl.first a = s.mem a :=
    fun a ha => Function.update_of_ne (by omega) ..
  have hHeaps := h.heaps.write hp hOut hSame
  refine ⟨⟨hHeaps.pool, hHeaps.apart⟩, forall_update ?_ fun t' hNe => ?_, rfl⟩
  · refine ⟨⟨hKeep, pl, hp, hOut⟩, fun pl' hp' => ?_⟩
    obtain rfl := Option.some.inj (hp.symm.trans hp')
    exact Function.update_self ..
  · refine (h.tasks t').frame_keeper (fun _ => rfl) (fun _ => id) ?_
    rw [reads_of_outside (h.exclusive.outside (by rw [hPc]; rfl) hNe)]
    nofun

/-- The second half. -/
theorem inv_putWrite {block : Nat} (h : Inv s) (hPc : s.pc t = .putWrite p block)
    (hStep : critical s t = some s') :
    Heaps s' ∧ (∀ t, PcInv s' t (s'.pc t)) ∧ s'.allocs = s.allocs := by
  have hSelf := h.tasks t
  rw [hPc] at hSelf
  obtain ⟨⟨hKeep, pl, hp, hOut⟩, hLink⟩ := hSelf
  simp only [critical, hPc, hp, Option.map_some, Option.some.injEq] at hStep
  have hLive : (pl.put block).live = true := (livePool_iff.mp hp).2
  have hHeaps := h.heaps.setPool hp hLive
    ((h.heaps.pool p pl hp).put hOut (hLink pl hp)) rfl rfl
  subst hStep
  refine ⟨⟨hHeaps.pool, hHeaps.apart⟩, forall_update ?_ fun t' hNe => ?_, rfl⟩
  · exact ⟨_, livePool_setPool_self hp hLive⟩
  · refine h.frame_setPool (by rw [hPc]; rfl) hNe hp hLive rfl
      (fun _ => rfl) (fun q b hKept => hKept.1) fun b hKept => ?_
    obtain ⟨hKeep', ql, hq, hOut'⟩ := hKept
    obtain rfl := Option.some.inj (hp.symm.trans hq)
    refine (List.mem_erase_of_ne ?_).mpr hOut'
    rintro rfl
    cases hKeep.symm.trans hKeep'
    exact hNe rfl

theorem inv_exit (h : Inv s) (hStep : exit s t = some s') :
    Heaps s' ∧ (∀ t, PcInv s' t (s'.pc t)) ∧ s'.allocs = s.allocs := by
  have hSelf := h.tasks t
  simp only [exit] at hStep
  split at hStep
  · rename_i p block clear hPc
    rw [hPc] at hSelf
    obtain ⟨⟨pl', hp', hClear⟩, hKept⟩ := hSelf
    split at hStep
    · cases hStep
      exact ⟨⟨h.heaps.pool, h.heaps.apart⟩, forall_update trivial fun t' _ => h.tasks t', rfl⟩
    · rename_i hNe
      obtain ⟨hKeep, pl, hp, hOut⟩ := hKept hNe
      obtain rfl := Option.some.inj (hp.symm.trans hp')
      have hSame : ∀ a, a < block ∨ block + pl.blockSize ≤ a →
          memset s.mem block clear a = s.mem a := fun a ha => if_neg (by omega)
      have hHeaps := h.heaps.write hp hOut hSame
      cases hStep
      refine ⟨⟨hHeaps.pool, hHeaps.apart⟩, forall_update trivial fun t' hOther => ?_, rfl⟩
      refine (h.tasks t').frame_keeper (fun _ => rfl) (fun b hKeep' => ?_) ?_
      · refine (Function.update_of_ne ?_ ..).trans hKeep'
        rintro rfl
        cases hKeep.symm.trans hKeep'
        exact hOther rfl
      · rw [reads_of_outside (h.exclusive.outside (by rw [hPc]; rfl) hOther)]
        nofun
  · cases hStep
    exact ⟨⟨h.heaps.pool, h.heaps.apart⟩, forall_update trivial fun t' _ => h.tasks t', rfl⟩
  · cases hStep

/-- What a task relies on is not in a block that the client has. -/
theorem Inv.reads_apart {pl : Pool} {block : Nat} (h : Inv s) (hp : s.livePool p = some pl)
    (hOut : block ∈ pl.outstanding) (hClient : s.keeper block = .client) :
    ∀ b ∈ (s.pc t).reads, b < block ∨ block + pl.blockSize ≤ b := by
  intro b hReads
  have hTask := h.tasks t
  cases hPc : s.pc t with
  | getWrite q block' next clear =>
    rw [hPc] at hTask hReads
    cases hReads
    obtain ⟨-, ql, hq, hFree, rfl, -⟩ := hTask
    obtain ⟨-, hBlock, hNotOut⟩ := (h.heaps.pool q ql hq).first hFree
    exact h.heaps.not_read hp hOut hq hBlock hNotOut
  | putWrite q block' =>
    rw [hPc] at hTask hReads
    cases hReads
    obtain ⟨⟨hKeep, ql, hq, hOut'⟩, -⟩ := hTask
    have hNe : block ≠ b := by
      rintro rfl
      cases hClient.symm.trans hKeep
    have hSize := (h.heaps.pool q ql hq).size.1
    have hBlock := (h.heaps.pool p pl hp).hasBlock hOut
    have hBlock' := (h.heaps.pool q ql hq).hasBlock hOut'
    rcases h.heaps.blocks_apart hp hq hBlock hBlock' (.inr hNe) with hLow | hHigh
    · exact .inr hLow
    · exact .inl (by omega)
  | _ =>
    rw [hPc] at hReads
    cases hReads

theorem inv_clientWrite {block offset val : Nat} (h : Inv s)
    (hStep : clientWrite s p block offset val = some s') :
    Heaps s' ∧ (∀ t, PcInv s' t (s'.pc t)) ∧ s'.allocs = s.allocs := by
  simp only [clientWrite] at hStep
  obtain ⟨pl, hp, hEq⟩ := Option.bind_eq_some_iff.mp hStep
  simp only [Option.ite_none_right_eq_some] at hEq
  obtain ⟨⟨hOut, hClient, hOffset⟩, hEq⟩ := hEq
  have hSame : ∀ a, a < block ∨ block + pl.blockSize ≤ a →
      Function.update s.mem (block + offset) val a = s.mem a :=
    fun a ha => Function.update_of_ne (by omega) ..
  cases hEq
  refine ⟨h.heaps.write hp hOut hSame, fun t => ?_, rfl⟩
  exact (h.tasks t).frame_keeper (fun _ => rfl) (fun _ => id) fun b hReads =>
    hSame b (h.reads_apart hp hOut hClient b hReads)

theorem inv_destroy (h : Inv s) (hStep : destroy s p = some s') :
    Heaps s' ∧ (∀ t, PcInv s' t (s'.pc t)) ∧ s'.allocs = s.allocs := by
  simp only [destroy, Option.ite_none_right_eq_some] at hStep
  obtain ⟨hUnused, hSome⟩ := hStep
  obtain ⟨pl, hp, hEq⟩ := Option.map_eq_some_iff.mp hSome
  cases hEq
  have hGone : ∀ q ql, (s.setPool p { pl with live := false, outstanding := [] }).livePool q =
      some ql → s.livePool q = some ql := by
    intro q ql hq
    by_cases hNe : q = p
    · subst hNe
      obtain ⟨hPool, hLive⟩ := livePool_iff.mp hq
      have hAt := (List.getElem?_eq_some_iff.mp (livePool_iff.mp hp).1).1
      cases (List.getElem?_set_self hAt).symm.trans hPool
      cases hLive
    · exact (livePool_setPool_of_ne hNe).symm.trans hq
  refine ⟨⟨fun q ql hq => h.heaps.pool q ql (hGone q ql hq), fun q r ql rl hNe hq hr =>
    h.heaps.apart q r ql rl hNe (hGone q ql hq) (hGone r rl hr)⟩, fun t => ?_, rfl⟩
  have hOther : ∀ q, (s.pc t).pool = some q → q ≠ p := by
    rintro q hPool rfl
    refine hUnused t ((h.exclusive.busy t).mpr ?_) hPool
    intro hIdle
    rw [hIdle] at hPool
    cases hPool
  refine (h.tasks t).frame (fun q ql hPool hq => ?_) (fun q b hPool hKept => ?_) fun _ _ => rfl
  · exact ⟨ql, (livePool_setPool_of_ne (hOther q hPool)).trans hq, rfl, fun _ => rfl⟩
  · obtain ⟨hKeep, ql, hq, hOut⟩ := hKept
    exact ⟨hKeep, ql, (livePool_setPool_of_ne (hOther q hPool)).trans hq, hOut⟩

theorem poolHeap_ne_zero {cfg : PoolConfig} {m : Memory} {h : Nat × Nat}
    (hHeap : poolHeap cfg m = some h) : h.1 ≠ 0 := by
  simp only [poolHeap] at hHeap
  split at hHeap
  · cases hHeap
  · split at hHeap
    · split at hHeap
      · cases hHeap
      · cases hHeap
        assumption
    · split at hHeap
      · cases hHeap
      · split at hHeap
        · cases hHeap
        · cases hHeap
          assumption

theorem inv_create {cfg : PoolConfig} {m : Memory} (h : Inv s)
    (hCareful : Careful s (.create cfg m)) (hStep : create s cfg m = some s') :
    Heaps s' ∧ (∀ t, PcInv s' t (s'.pc t)) ∧ s'.allocs = s.allocs := by
  simp only [create] at hStep
  split at hStep
  · cases hStep
    exact ⟨h.heaps, h.tasks, rfl⟩
  · rename_i heap heapBytes hHeap
    simp only [Option.ite_none_right_eq_some, osMempoolInit] at hStep
    obtain ⟨hApart, hEq⟩ := hStep
    split at hEq
    · cases hEq
      exact ⟨h.heaps, h.tasks, rfl⟩
    · rename_i hSize
      obtain ⟨hBusy, hMutex, hSized⟩ := hCareful _ hHeap hSize
      rw [hMutex] at hEq
      have hIdle : ∀ t, s.pc t = .idle := by
        intro t
        by_contra hNot
        have hMem := (h.exclusive.busy t).mpr hNot
        rw [hBusy] at hMem
        cases hMem
      split at hEq
      · cases hEq
        refine ⟨⟨h.heaps.pool, h.heaps.apart⟩, fun t => ?_, rfl⟩
        show PcInv _ t (s.pc t)
        rw [hIdle]
        trivial
      · rename_i hAligned
        obtain ⟨hNum, hBound, hTrue, hRoom⟩ :=
          fits_of_sized hHeap (hSized (not_not.mp hAligned))
        rw [Nat.mod_eq_of_lt hBound, if_pos hNum] at hEq
        cases hEq
        refine ⟨?_, fun t => ?_, rfl⟩
        · have hInit : Heaps (osInitCritical s true) := ⟨h.heaps.pool, h.heaps.apart⟩
          refine hInit.append ?_ hApart fun a ha => linkBlocks_of_not_mem fun hMem => ?_
          · exact PoolInv.init rfl rfl rfl rfl (poolHeap_ne_zero hHeap) hNum hBound
              ⟨Nat.pos_of_ne_zero hSize, hTrue⟩ hRoom
          · have hInside := blocks_inside hMem
            rw [Nat.sub_add_cancel hNum] at hInside
            have hPos : 0 < trueBlockSize cfg.blockSize := by omega
            dsimp only at ha hRoom
            omega
        · show PcInv _ t (s.pc t)
          rw [hIdle]
          trivial

end Tasks

/-! ## Every run -/

section Runs

variable {s s' : State} {a : Action}

theorem inv_boot : Inv boot := by
  have hNone : ∀ p pl, boot.livePool p ≠ some pl := nofun
  refine ⟨⟨nofun, fun m t => ?_, fun t => ?_, .nil⟩, ⟨?_, ?_⟩, fun t => trivial, nofun⟩
  · exact iff_of_false nofun nofun
  · exact iff_of_false nofun fun hBusy => hBusy rfl
  · exact fun p pl hp => absurd hp (hNone p pl)
  · exact fun p q pl ql _ hp => absurd hp (hNone p pl)

theorem inv_critical {t : Nat} (h : Inv s) (hStep : critical s t = some s') :
    Heaps s' ∧ (∀ t, PcInv s' t (s'.pc t)) ∧
      ∀ r ∈ s'.allocs, r.ok = true ↔ r.outstanding < r.numBlocks := by
  cases hPc : s.pc t with
  | getRead p clear => exact inv_getRead h hPc hStep
  | getWrite p block next clear =>
    obtain ⟨hHeaps, hTasks, hAllocs⟩ := inv_getWrite h hPc hStep
    exact ⟨hHeaps, hTasks, hAllocs ▸ h.allocs⟩
  | putLink p block =>
    obtain ⟨hHeaps, hTasks, hAllocs⟩ := inv_putLink h hPc hStep
    exact ⟨hHeaps, hTasks, hAllocs ▸ h.allocs⟩
  | putWrite p block =>
    obtain ⟨hHeaps, hTasks, hAllocs⟩ := inv_putWrite h hPc hStep
    exact ⟨hHeaps, hTasks, hAllocs ▸ h.allocs⟩
  | _ =>
    simp only [critical, hPc] at hStep
    cases hStep

theorem inv_step (h : Inv s) (hCareful : Careful s a) (hStep : step s a = some s') : Inv s' := by
  have hExclusive := mutex_step h.exclusive hCareful hStep
  have hRest : Heaps s' ∧ (∀ t, PcInv s' t (s'.pc t)) ∧ s'.allocs = s.allocs → Inv s' := by
    rintro ⟨hHeaps, hTasks, hAllocs⟩
    exact ⟨hExclusive, hHeaps, hTasks, hAllocs ▸ h.allocs⟩
  cases a with
  | create cfg m => exact hRest (inv_create h hCareful hStep)
  | destroy p => exact hRest (inv_destroy h hStep)
  | alloc t p nbytes needMemset => exact hRest (inv_alloc h hStep)
  | free t p block => exact hRest (inv_free h hStep)
  | enter t => exact hRest (inv_enter h hStep)
  | critical t =>
    obtain ⟨hHeaps, hTasks, hAllocs⟩ := inv_critical h hStep
    exact ⟨hExclusive, hHeaps, hTasks, hAllocs⟩
  | exit t => exact hRest (inv_exit h hStep)
  | clientWrite p block offset val => exact hRest (inv_clientWrite h hStep)

theorem PoolInv.intact {mem : Nat → Nat} {pl : Pool} (h : PoolInv mem pl) :
    PoolIntact mem pl := by
  obtain ⟨free, hChain, hCount, hPerm⟩ := h.free
  have hNodup := (List.nodup_append.mp (h.nodup hPerm)).2.1
  refine ⟨fun b hOut => h.inside (h.hasBlock hOut), ?_, free, hChain, hCount⟩
  refine hNodup.imp_of_mem fun hOut hOut' hNe => ?_
  exact h.apart (h.hasBlock hOut) (h.hasBlock hOut') hNe

theorem Inv.intact (h : Inv s) : Intact s := by
  refine ⟨fun p pl hp => (h.heaps.pool p pl hp).intact, ?_, h.allocs⟩
  intro p q pl ql hNe hp hq b hOut b' hOut'
  exact h.heaps.blocks_apart hp hq ((h.heaps.pool p pl hp).hasBlock hOut)
    ((h.heaps.pool q ql hq).hasBlock hOut') (.inl hNe)

end Runs

/-- With the mutex in place and sized pools, blocks are handed out once and inside the heap. -/
theorem pools_intact {s : State} (hRun : Reaches step Careful boot s) : Intact s :=
  (hRun.invariant inv_boot fun _ _ _ => inv_step).intact

/-- Two blocks of 16 bytes. -/
def twoBlocks : PoolConfig := ⟨0, 0, 2, 16, 64⟩

/-- Two tasks get the blocks of a pool in turn, one returns its block, and the pool gives it out
again. -/
theorem pools_intact_reuse : ∃ s, Reaches step Careful boot s ∧
    (s.livePool 0).map Pool.outstanding = some [1000, 1016] ∧ Intact s := by
  obtain ⟨s, hs, hOut⟩ := Option.map_eq_some_iff.mp
    (show (runGuarded step Careful boot [.create twoBlocks ⟨true, true, 1000, true⟩,
      .create twoBlocks ⟨true, true, 2000, true⟩, .alloc 0 0 16 true, .enter 0, .critical 0,
      .alloc 1 0 8 false, .critical 0, .exit 0, .enter 1, .critical 1, .critical 1, .exit 1,
      .clientWrite 0 1000 3 7, .free 0 0 1000, .enter 0, .critical 0, .critical 0, .exit 0,
      .alloc 1 0 16 true, .enter 1, .critical 1, .critical 1, .exit 1]).map
        (fun s => (s.livePool 0).map Pool.outstanding) = some (some [1000, 1016])
      by decide +kernel)
  exact ⟨s, .of_run hs, hOut, pools_intact (.of_run hs)⟩

/-- A second pool is created while a task is in the critical section of the first. The mutex is new,
and another task gets the same block. -/
theorem not_pools_intact : ¬ ∀ s, Reaches step anyStep boot s → Intact s := by
  intro h
  obtain ⟨s, hs, hOut⟩ := Option.map_eq_some_iff.mp
    (show (run step boot [.create twoBlocks ⟨true, true, 1000, true⟩, .alloc 0 0 16 true, .enter 0,
      .critical 0, .create twoBlocks ⟨true, true, 2000, true⟩, .alloc 1 0 16 true, .enter 1,
      .critical 1, .critical 1, .critical 0, .exit 1, .exit 0]).map
        (fun s => (s.livePool 0).map fun pl => (pl.outstanding, pl.blockSize)) =
          some (some ([1000, 1000], 16)) by decide +kernel)
  obtain ⟨pl, hp, hBlocks⟩ := Option.map_eq_some_iff.mp hOut
  obtain ⟨hOutstanding, hSize⟩ := Prod.mk.inj hBlocks
  have hApart := ((h s (.of_plain_run hs)).pool 0 pl hp).apart
  rw [hOutstanding, hSize] at hApart
  revert hApart
  decide

end EspHosted.Mempool
