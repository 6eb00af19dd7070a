import EspHosted.Driver.Channels

/-!
# Registrations that fail

`transport_drv_add_channel` frees the channel that it finds in the slot and puts the new one
there before it looks at the interface and before it creates the memory pool. An exit behind that
point cannot restore the old channel, and the exit for an interface without a tx function leaves
the new one behind.

* `unchanged_iff`: exactly when a call that returns `NULL` leaves the slot, its channel and the
  count of the pool as they were.
-/

namespace EspHosted.Driver.Channels

open Machine

/-- The slot has the channel that it had, and the pool is counted as before. -/
structure Unchanged (ifType : Nat) (s s' : State) : Prop where
  chan : s'.chan ifType = s.chan ifType
  refCount : s'.refCountMempool = s.refCountMempool

/-- The checks at the start of the function. -/
def Rejected (a : AddArgs) : Prop := espMaxIf ≤ a.ifType ∨ a.hasTx = false ∨ a.hasRx = false

instance (a : AddArgs) : Decidable (Rejected a) := inferInstanceAs (Decidable (_ ∨ _ ∨ _))

/-- The common pool is there, or can be created. -/
def PoolAvailable (s : State) (a : AddArgs) : Prop :=
  (dropReplaced s a.ifType).refCountMempool ≠ 0 ∨ a.createOk = true

instance (s : State) (a : AddArgs) : Decidable (PoolAvailable s a) :=
  inferInstanceAs (Decidable (_ ∨ _))

variable {s s' : State} {a : AddArgs}

/-! ## The exits -/

/-- What a registration does, by its exits: the checks at the start, no memory for the channel, no
tx function, no memory pool, and success. -/
theorem addChannel_cases (hCounted : Counted s) (a : AddArgs) :
    (Rejected a ∧ transportDrvAddChannel s a = (none, s)) ∨
    (¬ Rejected a ∧ a.callocOk = false ∧
      transportDrvAddChannel s a = (none, dropReplaced s a.ifType)) ∨
    (¬ Rejected a ∧ a.callocOk = true ∧ ¬ hasTxFn a.ifType ∧
      transportDrvAddChannel s a = (none, { dropReplaced s a.ifType with
        nextAddr := s.nextAddr + 1
        chanArr := s.chanArr.set a.ifType (some ⟨s.nextAddr, 0, 0, none⟩) })) ∨
    (¬ Rejected a ∧ a.callocOk = true ∧ hasTxFn a.ifType ∧ ¬ PoolAvailable s a ∧
      transportDrvAddChannel s a = (none, { dropReplaced s a.ifType with
        nextAddr := s.nextAddr + 1
        mempoolCommon := none
        chanArr := s.chanArr.set a.ifType none })) ∨
    (¬ Rejected a ∧ a.callocOk = true ∧ hasTxFn a.ifType ∧ PoolAvailable s a ∧
      ∃ pool pools n, transportDrvAddChannel s a = (some ⟨s.nextAddr, a.ifType⟩,
        { dropReplaced s a.ifType with
          nextAddr := s.nextAddr + 1
          mempoolCommon := some pool
          pools := pools
          refCountMempool := n
          chanArr := s.chanArr.set a.ifType
            (some ⟨s.nextAddr, a.apiChan, a.ifType, some pool⟩) })) := by
  obtain ⟨n, arr, hDrop, hSet⟩ : ∃ n arr, dropReplaced s a.ifType =
      { s with chanArr := arr, refCountMempool := n } ∧
      ∀ o, arr.set a.ifType o = s.chanArr.set a.ifType o := by
    unfold dropReplaced
    split
    · exact ⟨_, _, rfl, fun _ => rfl⟩
    · split <;> exact ⟨_, _, rfl, fun o => List.set_set ..⟩
  unfold transportDrvAddChannel Rejected
  split
  · rename_i hIf
    exact Or.inl ⟨Or.inl hIf, rfl⟩
  rename_i hIf
  split
  · rename_i hArgs
    exact Or.inl ⟨Or.inr hArgs, rfl⟩
  rename_i hArgs
  have hAccepted := not_or.mpr ⟨hIf, hArgs⟩
  have hCounted := (dropReplaced_counted hCounted (i := a.ifType) (by omega)).1
  refine Or.inr ?_
  simp only
  split
  · rename_i hCalloc
    exact Or.inl ⟨hAccepted, hCalloc, rfl⟩
  rename_i hCalloc
  rw [Bool.not_eq_false] at hCalloc
  refine Or.inr ?_
  split
  · rename_i hTx
    refine Or.inl ⟨hAccepted, hCalloc, hTx, ?_⟩
    rw [hDrop]
    simp only [hSet]
  rename_i hTx
  rw [not_not] at hTx
  refine Or.inr ?_
  by_cases hZero : (dropReplaced s a.ifType).refCountMempool = 0
  · cases hCreate : a.createOk with
    | false =>
      refine Or.inl ⟨hAccepted, hCalloc, hTx, ?_, ?_⟩
      · rw [PoolAvailable, hCreate]
        exact not_or.mpr ⟨not_not.mpr hZero, Bool.false_ne_true⟩
      · simp only [commonMempoolCreate, hZero, if_true, Bool.false_eq_true, if_false]
        rw [hDrop]
        simp only [hSet]
    | true =>
      refine Or.inr ⟨hAccepted, hCalloc, hTx, Or.inr hCreate, s.pools, s.pools + 1, 0 + 1, ?_⟩
      simp only [commonMempoolCreate, hZero, if_true]
      rw [hDrop]
      simp only [hSet]
  · obtain ⟨pool, hPool⟩ := hCounted.exists_common hZero
    refine Or.inr ⟨hAccepted, hCalloc, hTx, Or.inl hZero, pool, s.pools,
      (dropReplaced s a.ifType).refCountMempool + 1, ?_⟩
    simp only [commonMempoolCreate, hZero, if_false, hPool]
    rw [hDrop]
    simp only [hSet]

/-! ## Addresses -/

/-- A channel that is allocated has an address that no other had. -/
def Addressed (s : State) : Prop := ∀ i c, s.chan i = some c → c.addr < s.nextAddr

/-- A slot is set, to nothing or to a channel that is older than the next one. -/
theorem addressed_set (h : Addressed s) {t : State} {i : Nat} {o : Option Channel}
    (hArr : t.chanArr = s.chanArr.set i o) (hNext : s.nextAddr ≤ t.nextAddr)
    (ho : ∀ c, o = some c → c.addr < t.nextAddr) : Addressed t := by
  intro j c hc
  unfold State.chan at hc
  rw [hArr, List.getElem?_set] at hc
  split at hc
  · split at hc
    · exact ho c hc
    · cases hc
  · exact Nat.lt_of_lt_of_le (h j c hc) hNext

theorem dropReplaced_addressed (h : Addressed s) (i : Nat) : Addressed (dropReplaced s i) := by
  unfold dropReplaced
  split
  · exact h
  · split <;> exact addressed_set h rfl (Nat.le_refl _) nofun

theorem addChannel_addressed (hCounted : Counted s) (h : Addressed s) (a : AddArgs) :
    Addressed (transportDrvAddChannel s a).2 := by
  have hNew : ∀ c : Channel, c.addr = s.nextAddr → ∀ d, some c = some d →
      d.addr < s.nextAddr + 1 := by
    intro c hc d hd
    cases hd
    exact hc ▸ Nat.lt_succ_self _
  rcases addChannel_cases hCounted a with ⟨-, hEq⟩ | ⟨-, -, hEq⟩ | ⟨-, -, -, hEq⟩ |
    ⟨-, -, -, -, hEq⟩ | ⟨-, -, -, -, pool, pools, n, hEq⟩
  · rw [hEq]
    exact h
  · rw [hEq]
    exact dropReplaced_addressed h _
  · rw [hEq]
    exact addressed_set h rfl (Nat.le_succ _) (hNew _ rfl)
  · rw [hEq]
    exact addressed_set h rfl (Nat.le_succ _) nofun
  · rw [hEq]
    exact addressed_set h rfl (Nat.le_succ _) (hNew _ rfl)

theorem removeChannel_addressed (h : Addressed s) (hd : Handle) :
    Addressed (transportDrvRemoveChannel s hd).2 := by
  unfold transportDrvRemoveChannel
  split
  · exact h
  · split
    · exact h
    · exact addressed_set h rfl (Nat.le_refl _) nofun

theorem Sent.addressed {s' : State} {ifType : Nat} (hSent : Sent ifType s s') (h : Addressed s) :
    Addressed s' := by
  rcases hSent with rfl | ⟨c, pool, -, -, rfl⟩
  · exact h
  · exact h

theorem step_addressed (hCounted : Counted s) (h : Addressed s) {a : Action}
    (hStep : step s a = some s') : Addressed s' := by
  cases a with
  | addChannel a =>
    cases hStep
    exact addChannel_addressed hCounted h a
  | removeChannel hd =>
    simp only [step, Option.ite_none_right_eq_some] at hStep
    obtain ⟨-, hEq⟩ := hStep
    cases hEq
    exact removeChannel_addressed h hd
  | staTx a =>
    cases hStep
    exact (transportDrvStaTx_sent s a).addressed h
  | apTx a =>
    cases hStep
    exact (transportDrvApTx_sent s a).addressed h
  | complete i =>
    obtain ⟨b, -, hEq⟩ := Option.map_eq_some_iff.mp hStep
    cases hEq
    exact h

theorem init_chan (i : Nat) : init.chan i = none := by
  unfold State.chan init
  rw [List.getElem?_replicate]
  split <;> rfl

theorem init_addressed : Addressed init := by
  intro i c hc
  rw [init_chan] at hc
  cases hc

theorem reachable_inv (hRun : Reaches step anyStep init s) : Counted s ∧ Addressed s :=
  hRun.invariant (I := fun s => Counted s ∧ Addressed s) ⟨init_counted, init_addressed⟩
    fun _ _ _ h _ hStep => ⟨step_counted h.1 hStep, step_addressed h.1 h.2 hStep⟩

/-! ## Failures -/

/-- An exit that leaves the slot empty keeps what was there only if that was nothing. -/
theorem emptied_iff {t : State} (hEmpty : t.chan a.ifType = none)
    (hRef : t.refCountMempool = (dropReplaced s a.ifType).refCountMempool) :
    Unchanged a.ifType s t ↔ s.chan a.ifType = none := by
  refine ⟨fun h => h.chan.symm.trans hEmpty, fun hNone => ⟨hEmpty.trans hNone.symm, ?_⟩⟩
  rw [hRef, dropReplaced, hNone]

/-- In every run, for every call. -/
theorem unchanged_iff (hRun : Reaches step anyStep init s) (a : AddArgs) :
    ((transportDrvAddChannel s a).1 = none →
        Unchanged a.ifType s (transportDrvAddChannel s a).2) ↔
      Rejected a ∨
      (s.chan a.ifType = none ∧ (a.callocOk = true → hasTxFn a.ifType)) ∨
      (a.callocOk = true ∧ hasTxFn a.ifType ∧ PoolAvailable s a) := by
  obtain ⟨hCounted, hAddressed⟩ := reachable_inv hRun
  have hSlot : ¬ Rejected a → a.ifType < s.chanArr.length := by
    intro hAccepted
    rw [hCounted.size]
    exact Nat.lt_of_not_le (not_or.mp hAccepted).1
  rcases addChannel_cases hCounted a with ⟨hRejected, hEq⟩ | ⟨hAccepted, hCalloc, hEq⟩ |
    ⟨hAccepted, hCalloc, hTx, hEq⟩ | ⟨hAccepted, hCalloc, hTx, hPool, hEq⟩ |
    ⟨hAccepted, hCalloc, hTx, hPool, pool, pools, n, hEq⟩
  · rw [hEq]
    exact ⟨fun _ => Or.inl hRejected, fun _ _ => ⟨rfl, rfl⟩⟩
  · rw [hEq]
    have hEmpty := (dropReplaced_counted hCounted (Nat.lt_of_not_le (not_or.mp hAccepted).1)).2
    simp only [forall_const, emptied_iff hEmpty rfl, hAccepted, hCalloc, Bool.false_eq_true,
      false_implies, and_true, false_and, or_false, false_or]
  · rw [hEq]
    simp only [forall_const, hAccepted, hCalloc, hTx, and_false, false_and, or_false, iff_false]
    intro h
    have hChan := h.chan
    rw [State.chan, List.getElem?_set_self (hSlot hAccepted)] at hChan
    exact Nat.lt_irrefl _ (hAddressed _ _ hChan.symm)
  · rw [hEq]
    have hEmpty : ∀ t : State, t.chanArr = s.chanArr.set a.ifType none →
        t.chan a.ifType = none := by
      intro t ht
      rw [State.chan, ht, List.getElem?_set_self (hSlot hAccepted)]
      rfl
    have hIff := emptied_iff (s := s) (hEmpty { dropReplaced s a.ifType with
      nextAddr := s.nextAddr + 1
      mempoolCommon := none
      chanArr := s.chanArr.set a.ifType none } rfl) rfl
    simp only [forall_const, hIff, hAccepted, hTx, hPool, implies_true, and_true, and_false,
      or_false, false_or]
  · rw [hEq]
    exact ⟨fun _ => Or.inr (Or.inr ⟨hCalloc, hTx, hPool⟩),
      fun _ hNull => absurd hNull (Option.some_ne_none _)⟩

/-- The station is registered, and another interface then has no memory. -/
theorem unchanged_noMemory : ∃ s, Reaches step anyStep init s ∧ s.refCountMempool = 1 ∧
    (transportDrvAddChannel s ⟨7, espApIf, true, true, false, true⟩).1 = none ∧
    Unchanged espApIf s (transportDrvAddChannel s ⟨7, espApIf, true, true, false, true⟩).2 := by
  obtain ⟨s, hs, hEq⟩ := Option.map_eq_some_iff.mp (show (run step init [addSta]).map
    (fun s => (s.refCountMempool, (s.chan espApIf).isNone)) = some (1, true) by decide +kernel)
  rw [Prod.mk.injEq, Option.isNone_iff_eq_none] at hEq
  have hRun : Reaches step anyStep init s := .of_plain_run hs
  have hNull : (transportDrvAddChannel s ⟨7, espApIf, true, true, false, true⟩).1 = none := rfl
  exact ⟨s, hRun, hEq.1, hNull, (unchanged_iff hRun ⟨7, espApIf, true, true, false, true⟩).mpr
    (Or.inr (Or.inl ⟨hEq.2, nofun⟩)) hNull⟩

/-- A working channel is destroyed when there is no memory for the one that replaces it. -/
theorem working_channel_lost : ∃ s a, Reaches step anyStep init s ∧
    (s.chan espStaIf).isSome = true ∧ a.ifType = espStaIf ∧
    (transportDrvAddChannel s a).1 = none ∧
    ¬ Unchanged espStaIf s (transportDrvAddChannel s a).2 := by
  obtain ⟨s, hs, hEq⟩ := Option.map_eq_some_iff.mp (show (run step init [addSta]).map
    (fun s => ((s.chan espStaIf).isSome, ((transportDrvAddChannel s
      ⟨7, espStaIf, true, true, false, true⟩).2.chan espStaIf).isSome)) = some (true, false) by
    decide +kernel)
  rw [Prod.mk.injEq] at hEq
  refine ⟨s, ⟨7, espStaIf, true, true, false, true⟩, .of_plain_run hs, hEq.1, rfl, rfl, fun h => ?_⟩
  rw [h.chan, hEq.1] at hEq
  exact Bool.noConfusion hEq.2

end EspHosted.Driver.Channels
