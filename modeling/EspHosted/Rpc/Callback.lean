import EspHosted.Rpc.Async

/-!
# Every callback once

The callback of an asynchronous request can be called in three places: behind `fail_req` of
`process_rpc_tx_msg`, in `call_async_resp_callback` and in `rpc_async_timeout_handler`. Who is
to call it is handed on from the tx thread to the table entry and the timer.

* `called_once`: along steps that hand it on, the callback is called once at most, and it was
  called when nothing is left that could call it, unless the core is de-initialized;
* `not_called_once`: a message that cannot be sent leaves its entry and its timer behind, and
  the callback is called for the failure and for the timeout.
-/

namespace EspHosted.Rpc

open Slots Machine

theorem TxPc.held_of_owing {tx : TxPc} {k : Nat} (h : tx.owing = some k) : tx.held = some k := by
  cases tx <;> first | exact h | cases h

theorem RxPc.clears_eq {rx : RxPc} {i : Nat} (h : rx = .clearing i) : i ∈ rx.clears := by
  rw [h]
  rfl

/-- The timer will have the entry cleared, unless the response does. -/
def TimerPc.pending : TimerPc → Bool
  | .armed | .expired | .clearing => true
  | _ => false

namespace Core

variable {cfg : Config} {s s' : Core}

/-! ## The condition -/

/-- In addition to `Timely`: there is a free entry for the callback and memory for a failed
response; a response does not meet a timer that has expired, nor a timer a callback that was
called; and the threads are not cancelled before the entry of such a callback is cleared. -/
def HandedOn (cfg : Config) (s : Core) : Action → Prop
  | .setAsyncRespCallback => ∀ k ∈ s.tx.early, (cfg.app k).expRespMsgId < rpcIdRespMax ∧
      Has s.asyncRspTable 0
  | .notifyFail callocOk => callocOk = true ∨ ∀ k ∈ s.tx.held, (cfg.app k).async = false
  | .callAsync => ∀ resp ∈ s.rx.called, ∀ i ∈ find s.asyncRspTable resp.uid,
      ∀ k ∈ owner s.asyncRspTable i, s.timer k = .armed
  | .expire k => s.tx ≠ .registering k ∧
      ∀ i ∈ s.rx.clears, owner s.asyncRspTable i ≠ some k
  | .timerRead _ callocOk => callocOk = true
  | .cancelThreads => ∀ i ∈ s.rx.clears, owner s.asyncRspTable i = none
  | a => Timely cfg s a

instance (cfg : Config) (s : Core) (a : Action) : Decidable (HandedOn cfg s a) := by
  apply Action.casesOn (motive := fun a => Decidable (HandedOn cfg s a)) a <;> intros <;>
    unfold HandedOn <;> infer_instance

theorem HandedOn.timely {a : Action} (h : HandedOn cfg s a) : Timely cfg s a := by
  cases a with
  | expire k => exact h.1
  | _ => first | exact h | trivial

/-! ## The invariant -/

/-- A callback was called once at most, and if it was called, nothing is left that would call
it again. -/
structure AtMostOnce (cfg : Config) (s : Core) : Prop where
  once : ∀ k, s.cbCalls k ≤ 1
  stopped : ∀ k, s.cbCalls k = 1 → (s.timer k).running = false ∧
    (s.timer k = .armed → HasEntry s.asyncRspTable k)
  notifying : ∀ k, s.tx = .notifying k → (cfg.app k).async = true →
    s.cbCalls k = 0 ∧ s.timer k = .unarmed
  spent : ∀ i k, owner s.asyncRspTable i = some k → s.cbCalls k ≠ 0 → s.rx = .clearing i

/-- As long as the core is not de-initialized, somebody is to call the callback of a request
that was accepted, or it was called. -/
structure Due (cfg : Config) (s : Core) : Prop where
  registering : ∀ k, s.tx = .registering k → s.timer k = .armed
  clearing : ∀ i, s.rx = .clearing i → ∃ k, owner s.asyncRspTable i = some k ∧ s.cbCalls k = 1
  due : ∀ k, (cfg.app k).async = true → (s.caller k).queued = true →
    k ∈ s.rpcTxQ ∨ s.tx.owing = some k ∨
      (HasEntry s.asyncRspTable k ∧ (s.timer k).pending = true) ∨ s.timer k = .calling ∨
      s.cbCalls k = 1

namespace AtMostOnce

theorem frame (h : AtMostOnce cfg s) (hFrame : Frame cfg s s') : AtMostOnce cfg s' := by
  refine ⟨?_, ?_, ?_, ?_⟩
  · rw [hFrame.cbCalls]
    exact h.once
  · rw [hFrame.cbCalls, hFrame.timer, hFrame.async]
    exact h.stopped
  · intro k hPc hAsync
    rw [hFrame.cbCalls, hFrame.timer]
    rcases hFrame.tx with hSame | ⟨-, hNew⟩
    · exact h.notifying k (hSame ▸ hPc) hAsync
    · have hComposing := hNew k (by rw [hPc]; rfl)
      rw [hPc] at hComposing
      cases hComposing
  · intro i k hOwner hCalled
    rw [hFrame.async] at hOwner
    rw [hFrame.cbCalls] at hCalled
    have hRx := h.spent i k hOwner hCalled
    rcases hFrame.rx with hSame | ⟨hFree, -⟩
    · rw [hSame, hRx]
    · rw [hRx] at hFree
      cases hFree

theorem setTx (h : AtMostOnce cfg s) {tx : TxPc}
    (hNotify : ∀ k, tx = .notifying k → (cfg.app k).async = true →
      s.cbCalls k = 0 ∧ s.timer k = .unarmed) : AtMostOnce cfg { s with tx } :=
  { h with notifying := hNotify }

theorem uncalled_of_running (h : AtMostOnce cfg s) {k : Nat}
    (hRunning : (s.timer k).running = true) :
    s.cbCalls k = 0 := by
  have hOnce := h.once k
  by_contra hCalled
  rw [(h.stopped k (by omega)).1] at hRunning
  cases hRunning

/-- A timer goes on whose callback was not called. -/
theorem setTimer (h : AtMostOnce cfg s) {k : Nat} {pc : TimerPc} (hOld : s.timer k ≠ .unarmed)
    (hUncalled : s.cbCalls k = 0) :
    AtMostOnce cfg { s with timer := Function.update s.timer k pc } :=
  { h with
    stopped := fun j hj => by
      have hNe : j ≠ k := by
        rintro rfl
        rw [hUncalled] at hj
        cases hj
      simp only [Function.update_of_ne hNe]
      exact h.stopped j hj
    notifying := fun j hPc hAsync => by
      obtain ⟨hCalls, hTimer⟩ := h.notifying j hPc hAsync
      have hNe : j ≠ k := by
        rintro rfl
        exact hOld hTimer
      simp only [Function.update_of_ne hNe]
      exact ⟨hCalls, hTimer⟩ }

/-- A callback is called for the first time, and nobody else will call it. -/
theorem call (h : AtMostOnce cfg s) {k : Nat} (hUncalled : s.cbCalls k = 0)
    (hStopped : (s.timer k).running = false ∧
      (s.timer k = .armed → HasEntry s.asyncRspTable k))
    (hNotify : s.tx ≠ .notifying k)
    (hEntry : ∀ i, owner s.asyncRspTable i = some k → s.rx = .clearing i) :
    AtMostOnce cfg { s with cbCalls := Function.update s.cbCalls k (s.cbCalls k + 1) } :=
  { h with
    once := fun j => by
      by_cases hEq : j = k
      · subst hEq
        simp [hUncalled]
      · simp only [Function.update_of_ne hEq]
        exact h.once j
    stopped := fun j hj => by
      by_cases hEq : j = k
      · subst hEq
        exact hStopped
      · simp only [Function.update_of_ne hEq] at hj
        exact h.stopped j hj
    notifying := fun j hPc hAsync => by
      have hNe : j ≠ k := by
        rintro rfl
        exact hNotify hPc
      simp only [Function.update_of_ne hNe]
      exact h.notifying j hPc hAsync
    spent := fun i j hOwner hCalled => by
      by_cases hEq : j = k
      · subst hEq
        exact hEntry i hOwner
      · simp only [Function.update_of_ne hEq] at hCalled
        exact h.spent i j hOwner hCalled }

theorem clearAsync (h : AtMostOnce cfg s) (hSound : Sound cfg s) (i : Nat) :
    AtMostOnce cfg (s.clearAsyncRespCallback i) := by
  rcases hSound.clearAsync_spec i with ⟨-, hEq⟩ | ⟨k, hOwner, hEq⟩
  · rwa [hEq]
  · rw [hEq]
    exact { h with
      stopped := fun j hj => by
        obtain ⟨hRunning, hEntry⟩ := h.stopped j hj
        rcases stopTimer_cases s.timer (some k) j with hSame | ⟨-, -, hOver⟩
        · simp only [hSame]
          refine ⟨hRunning, fun hArmed => ?_⟩
          obtain ⟨l, hl⟩ := hEntry hArmed
          refine ⟨l, ?_⟩
          rw [owner_set_ne]
          · exact hl
          · rintro rfl
            -- the timer of the entry that is cleared would have been stopped
            rw [hOwner] at hl
            cases hl
            rw [hArmed] at hSame
            simp [stopTimer, hArmed] at hSame
        · simp only [hOver]
          exact ⟨rfl, nofun⟩
      notifying := fun j hPc hAsync => by
        obtain ⟨hCalls, hTimer⟩ := h.notifying j hPc hAsync
        refine ⟨hCalls, ?_⟩
        rcases stopTimer_cases s.timer (some k) j with hSame | ⟨-, hArmed, -⟩
        · simp only [hSame, hTimer]
        · rw [hTimer] at hArmed
          cases hArmed
      spent := fun j l hl hCalled => by
        rcases owner_set hl with ⟨-, hNone⟩ | ⟨-, hl⟩
        · cases hNone
        · exact h.spent j l hl hCalled }

end AtMostOnce

/-! ### One call at most -/

/-- The timer of a request that the tx thread has not come to start. -/
theorem unarmed_of_pending (hStarted : Started cfg s) {k : Nat} (hPending : s.Pending cfg k)
    (hPc : s.tx ≠ .registering k) : s.timer k = .unarmed := by
  by_contra hArmed
  exact hPc ((hStarted k hArmed).2.2 hPending)

/-- The tx thread fails before it has started the timer. -/
theorem AtMostOnce.fail (h : AtMostOnce cfg s) (hStarted : Started cfg s) (hCalls : Calls cfg s)
    {k : Nat} (hEarly : s.tx.early = some k) (hPc : s.tx ≠ .registering k) :
    AtMostOnce cfg { s with tx := .notifying k } := by
  apply h.setTx
  rintro j ⟨⟩ hAsync
  have hPending := Calls.pending_of_early hEarly hAsync
  exact ⟨hCalls.uncalled k (Or.inr hPending), unarmed_of_pending hStarted hPending hPc⟩

theorem composeReq_once {ok : Bool} (hStarted : Started cfg s) (hCalls : Calls cfg s)
    (h : AtMostOnce cfg s) (hStep : composeReq cfg ok s = some s') : AtMostOnce cfg s' := by
  unfold composeReq at hStep
  split at hStep
  · rename_i k hPc
    have hFail := h.fail hStarted hCalls (k := k) (by rw [hPc]; rfl) (by simp [hPc])
    have hSend : AtMostOnce cfg { s with tx := .sending k } := h.setTx (by simp)
    have hTimer : AtMostOnce cfg { s with tx := .starting k } := h.setTx (by simp)
    cases hStep
    cases ok with
    | false => exact { hFail with }
    | true =>
      cases (cfg.app k).async with
      | false => exact { hSend with }
      | true => exact { hTimer with }
  · cases hStep

theorem startTimer_once {ok : Bool} (hSound : Sound cfg s) (hStarted : Started cfg s)
    (hCalls : Calls cfg s) (h : AtMostOnce cfg s) (hStep : startTimer ok s = some s') :
    AtMostOnce cfg s' := by
  unfold startTimer at hStep
  split at hStep
  · rename_i k hPc
    split at hStep
    · have hAsync : (cfg.app k).async = true := hSound.timed k (by rw [hPc]; rfl)
      have hUncalled : s.cbCalls k = 0 :=
        hCalls.uncalled k (Or.inr (Calls.pending_of_early (by rw [hPc]; rfl) hAsync))
      have hTx : AtMostOnce cfg { s with tx := .registering k } := h.setTx (by simp)
      cases hStep
      exact { hTx with
        stopped := fun j hj => by
          have hNe : j ≠ k := by
            rintro rfl
            rw [show s.cbCalls j = 1 from hj] at hUncalled
            cases hUncalled
          simp only [Function.update_of_ne hNe]
          exact h.stopped j hj
        notifying := fun j hj => by cases hj }
    · have hFail := h.fail hStarted hCalls (k := k) (by rw [hPc]; rfl) (by simp [hPc])
      cases hStep
      exact { hFail with }
  · cases hStep

/-- The registration of a callback that has a free entry. -/
theorem setAsyncRespCallback_cases {k : Nat} (hPc : s.tx = .registering k)
    (hHanded : HandedOn cfg s .setAsyncRespCallback)
    (hStep : setAsyncRespCallback cfg s = some s') :
    ∃ i e, s.asyncRspTable[i]? = some e ∧ e.uid = 0 ∧
      s' = { s.touch k with
        tx := .sending k
        asyncRspTable := s.asyncRspTable.set i (asyncEntry s.uidOf k) } := by
  obtain ⟨hRange, hFree⟩ := hHanded k (by rw [hPc]; rfl)
  unfold setAsyncRespCallback at hStep
  rw [hPc] at hStep
  simp only [if_neg (Nat.not_le.mpr hRange)] at hStep
  split at hStep
  · rename_i hNone
    exact absurd hFree (find_none hNone)
  · rename_i i hFind
    obtain ⟨e, he, hUid⟩ := find_some hFind
    cases hStep
    exact ⟨i, e, he, hUid, rfl⟩

theorem registering_of_step (hStep : setAsyncRespCallback cfg s = some s') :
    ∃ k, s.tx = .registering k := by
  unfold setAsyncRespCallback at hStep
  split at hStep
  · rename_i k hPc
    exact ⟨k, hPc⟩
  · cases hStep

theorem setAsyncRespCallback_once (hSound : Sound cfg s) (hCalls : Calls cfg s)
    (h : AtMostOnce cfg s) (hHanded : HandedOn cfg s .setAsyncRespCallback)
    (hStep : setAsyncRespCallback cfg s = some s') : AtMostOnce cfg s' := by
  obtain ⟨k, hPc⟩ := registering_of_step hStep
  obtain ⟨i, e, he, hFree, rfl⟩ := setAsyncRespCallback_cases hPc hHanded hStep
  have hAsync : (cfg.app k).async = true := hSound.timed k (by rw [hPc]; rfl)
  have hUncalled : s.cbCalls k = 0 :=
    hCalls.uncalled k (Or.inr (Calls.pending_of_early (by rw [hPc]; rfl) hAsync))
  have hTx : AtMostOnce cfg { s with tx := .sending k } := h.setTx (by simp)
  exact { hTx with
    stopped := fun j hj => by
      obtain ⟨hRunning, hEntry⟩ := h.stopped j hj
      refine ⟨hRunning, fun hArmed => ?_⟩
      obtain ⟨l, hl⟩ := hEntry hArmed
      refine ⟨l, ?_⟩
      rw [owner_set_ne]
      · exact hl
      · rintro rfl
        rw [owner_free he hFree] at hl
        cases hl
    notifying := fun j hj => by cases hj
    spent := fun j l hl hCalled => by
      rcases owner_set hl with ⟨-, hEq⟩ | ⟨-, hl⟩
      · cases hEq
        exact absurd hUncalled hCalled
      · exact h.spent j l hl hCalled }

theorem serialSend_once {ok : Bool} (h : AtMostOnce cfg s)
    (hHanded : HandedOn cfg s (.serialSend ok)) (hStep : serialSend ok s = some s') :
    AtMostOnce cfg s' := by
  unfold serialSend at hStep
  split at hStep
  · rename_i k hPc
    have hClean : AtMostOnce cfg { s with tx := .cleaning k } := h.setTx (by simp)
    cases hStep
    cases ok with
    | true => exact hClean
    | false =>
      suffices hFail : AtMostOnce cfg { s with tx := .notifying k } from hFail
      apply h.setTx
      rintro j ⟨⟩ hAsync
      rw [hHanded.resolve_left (by decide) k (by rw [hPc]; rfl)] at hAsync
      cases hAsync
  · cases hStep

theorem notifyFail_once {callocOk : Bool} (hCalls : Calls cfg s) (h : AtMostOnce cfg s)
    (hStep : notifyFail cfg callocOk s = some s') : AtMostOnce cfg s' := by
  unfold notifyFail at hStep
  split at hStep
  · rename_i k hPc
    have hTx : AtMostOnce cfg { s with tx := .failCleaning k } := h.setTx (by simp)
    have hPost : ∀ resp, AtMostOnce cfg { s with tx := .posting k resp } :=
      fun resp => h.setTx (by simp)
    split at hStep
    · cases hStep
      exact { hTx with }
    · split at hStep
      · rename_i hAsync
        obtain ⟨hUncalled, hUnarmed⟩ := h.notifying k hPc hAsync
        have hCalled := hTx.call hUncalled (by rw [hUnarmed]; exact ⟨rfl, nofun⟩) (by simp)
          fun i hOwner => absurd ⟨i, hOwner⟩ (hCalls.notifying k hPc)
        cases hStep
        exact { hCalled with }
      · split at hStep
        · cases hStep
          exact { hTx with }
        · split at hStep
          · have hPosting := hPost ⟨(cfg.app k).expRespMsgId, 0⟩
            cases hStep
            exact { hPosting with }
          · cases hStep
  · cases hStep

/-- A response that is matched meets an armed timer and a callback that was not called. -/
theorem callAsync_once (hSound : Sound cfg s) (hCalls : Calls cfg s) (h : AtMostOnce cfg s)
    (hHanded : HandedOn cfg s .callAsync) (hStep : callAsync s = some s') :
    AtMostOnce cfg s' := by
  unfold callAsync at hStep
  split at hStep
  · rename_i resp hPc
    have hUncalled : ∀ i k, owner s.asyncRspTable i = some k → s.cbCalls k = 0 := by
      intro i k hOwner
      by_contra hCalled
      have hRx := h.spent i k hOwner hCalled
      rw [hPc] at hRx
      cases hRx
    have hRx : ∀ rx, AtMostOnce cfg { s with rx } := fun rx =>
      { h with spent := fun i k hOwner hCalled => absurd (hUncalled i k hOwner) hCalled }
    split at hStep
    · cases hStep
      exact hRx .idle
    · rename_i i hFind
      split at hStep
      · cases hStep
        exact { h with }
      · rename_i k hCb
        obtain ⟨hOwner, -⟩ := hCalls.owner_of_find hFind hCb
        have hArmed : s.timer k = .armed := hHanded resp (by rw [hPc]; rfl) i hFind k hOwner
        cases hStep
        apply (hRx (.clearing i)).call (hUncalled i k hOwner)
        · rw [hArmed]
          exact ⟨rfl, fun _ => ⟨i, hOwner⟩⟩
        · exact fun hNotify => hCalls.notifying k hNotify ⟨i, hOwner⟩
        · intro j hj
          rw [hSound.tables.owner_inj hj hOwner]
  · cases hStep

theorem rxClearAsync_once (hSound : Sound cfg s) (h : AtMostOnce cfg s)
    (hStep : rxClearAsync s = some s') : AtMostOnce cfg s' := by
  unfold rxClearAsync at hStep
  split at hStep
  · rename_i i hPc
    have hCleared := h.clearAsync hSound i
    cases hStep
    exact { hCleared with
      spent := fun j k hj hCalled => by
        have hRx := hCleared.spent j k hj hCalled
        rw [clearAsync_rx, hPc] at hRx
        cases hRx
        exact absurd rfl (hSound.owner_cleared hj).1 }
  · cases hStep

/-- A timer does not expire behind the back of a callback that is being called. -/
theorem expire_once {k : Nat} (h : AtMostOnce cfg s) (hHanded : HandedOn cfg s (.expire k))
    (hStep : expire k s = some s') : AtMostOnce cfg s' := by
  unfold expire at hStep
  split at hStep
  · rename_i hArmed
    cases hStep
    apply h.setTimer (by simp [hArmed])
    by_contra hCalled
    have hOnce := h.once k
    obtain ⟨i, hOwner⟩ := (h.stopped k (by omega)).2 hArmed
    exact hHanded.2 i (RxPc.clears_eq (h.spent i k hOwner hCalled)) hOwner
  · cases hStep

theorem timerRead_once {callocOk : Bool} {k : Nat} (h : AtMostOnce cfg s)
    (hStep : timerRead callocOk k s = some s') : AtMostOnce cfg s' := by
  unfold timerRead at hStep
  split at hStep
  · rename_i hPc
    have hGo : ∀ pc, AtMostOnce cfg { s with timer := Function.update s.timer k pc } := fun pc =>
      h.setTimer (by simp [hPc]) (h.uncalled_of_running (by rw [hPc]; rfl))
    cases hStep
    exact { hGo (if callocOk then .clearing else .over) with }
  · cases hStep

theorem timerClear_once {k : Nat} (hSound : Sound cfg s) (h : AtMostOnce cfg s)
    (hStep : timerClear k s = some s') : AtMostOnce cfg s' := by
  unfold timerClear at hStep
  split at hStep
  · rename_i hPc
    have hUncalled := h.uncalled_of_running (k := k) (by rw [hPc]; rfl)
    split at hStep
    · cases hStep
      exact h.setTimer (by simp [hPc]) hUncalled
    · rename_i i hFind
      have hCleared := h.clearAsync hSound i
      cases hStep
      rcases hSound.clearAsync_spec i with ⟨-, hEq⟩ | ⟨l, -, hEq⟩
      · rw [hEq] at hCleared ⊢
        exact hCleared.setTimer (by simp [hPc]) hUncalled
      · rw [hEq] at hCleared ⊢
        apply hCleared.setTimer _ hUncalled
        have hSame : stopTimer s.timer (some l) k = s.timer k :=
          (stopTimer_cases s.timer (some l) k).resolve_right fun hStop => by simp [hPc] at hStop
        simp [hSame, hPc]
  · cases hStep

theorem timerCall_once {k : Nat} (hStarted : Started cfg s) (hCalls : Calls cfg s)
    (h : AtMostOnce cfg s) (hStep : timerCall k s = some s') : AtMostOnce cfg s' := by
  unfold timerCall at hStep
  split at hStep
  · rename_i hPc
    have hUncalled := h.uncalled_of_running (k := k) (by rw [hPc]; rfl)
    have hOver : AtMostOnce cfg { s with timer := Function.update s.timer k .over } :=
      h.setTimer (by simp [hPc]) hUncalled
    cases hStep
    apply hOver.call hUncalled
    · simp [TimerPc.running]
    · intro hNotify
      have hUnarmed := (h.notifying k hNotify (hStarted k (by simp [hPc])).1).2
      rw [hPc] at hUnarmed
      cases hUnarmed
    · exact fun i hOwner => absurd ⟨i, hOwner⟩ (hCalls.calling k hPc)
  · cases hStep

theorem cleanupTables_once (hSound : Sound cfg s) (h : AtMostOnce cfg s)
    (hStep : cleanupTables s = some s') : AtMostOnce cfg s' := by
  unfold cleanupTables at hStep
  split at hStep
  · cases hStep
    exact { h with
      stopped := fun k hk => by
        obtain ⟨hRunning, hEntry⟩ := h.stopped k hk
        by_cases hStop : s.timer k = .armed ∧
            s.asyncRspTable.any (·.item.timerHdl == some k) = true
        · simp only [if_pos hStop]
          exact ⟨rfl, nofun⟩
        · simp only [if_neg hStop]
          refine ⟨hRunning, fun hArmed => absurd ⟨hArmed, ?_⟩ hStop⟩
          obtain ⟨i, hOwner⟩ := hEntry hArmed
          obtain ⟨-, -, he⟩ := hSound.tables.owner_entry hOwner
          exact List.any_eq_true.mpr ⟨_, List.mem_of_getElem? he, by simp [asyncEntry]⟩
      notifying := fun k hPc hAsync => by
        obtain ⟨hUncalled, hUnarmed⟩ := h.notifying k hPc hAsync
        refine ⟨hUncalled, ?_⟩
        simp [hUnarmed]
      spent := fun i k hOwner => absurd hOwner owner_wiped }
  · cases hStep

theorem cancelThreads_once (h : AtMostOnce cfg s) (hHanded : HandedOn cfg s .cancelThreads)
    (hStep : cancelThreads s = some s') : AtMostOnce cfg s' := by
  unfold cancelThreads at hStep
  split at hStep
  · have hTx : AtMostOnce cfg { s with tx := .cancelled } := h.setTx (by simp)
    cases hStep
    exact { hTx with
      spent := fun i k hOwner hCalled => by
        have hNone := hHanded i (RxPc.clears_eq (h.spent i k hOwner hCalled))
        rw [hNone] at hOwner
        cases hOwner }
  · cases hStep

theorem init_once (cfg : Config) : AtMostOnce cfg (init cfg) :=
  ⟨fun _ => Nat.zero_le 1, nofun, nofun, fun _ _ _ hCalled => absurd rfl hCalled⟩

theorem step_once {a : Action} (hSound : Sound cfg s) (hStarted : Started cfg s)
    (hCalls : Calls cfg s) (h : AtMostOnce cfg s) (hHanded : HandedOn cfg s a)
    (hStep : step cfg s a = some s') : AtMostOnce cfg s' := by
  by_cases hQuiet : Action.quiet a = true
  · exact h.frame (step_frame hSound hQuiet hStep)
  · unfold step at hStep
    split at hStep
    · cases hStep
    · cases a with
      | composeReq ok => exact composeReq_once hStarted hCalls h hStep
      | startTimer ok => exact startTimer_once hSound hStarted hCalls h hStep
      | setAsyncRespCallback => exact setAsyncRespCallback_once hSound hCalls h hHanded hStep
      | serialSend ok => exact serialSend_once h hHanded hStep
      | notifyFail callocOk => exact notifyFail_once hCalls h hStep
      | callAsync => exact callAsync_once hSound hCalls h hHanded hStep
      | rxClearAsync => exact rxClearAsync_once hSound h hStep
      | expire k => exact expire_once h hHanded hStep
      | timerRead k callocOk => exact timerRead_once h hStep
      | timerClear k => exact timerClear_once hSound h hStep
      | timerCall k => exact timerCall_once hStarted hCalls h hStep
      | cleanupTables => exact cleanupTables_once hSound h hStep
      | cancelThreads => exact cancelThreads_once h hHanded hStep
      | _ => exact absurd rfl hQuiet

/-! ### One call at least -/

namespace Due

theorem frame (h : Due cfg s) (hFrame : Frame cfg s s') (hDeinit : s'.deinit = .none) :
    Due cfg s' := by
  refine ⟨?_, ?_, ?_⟩
  · intro k hPc
    rw [hFrame.timer]
    rcases hFrame.tx with hSame | ⟨-, hNew⟩
    · exact h.registering k (hSame ▸ hPc)
    · have hComposing := hNew k (by rw [hPc]; rfl)
      rw [hPc] at hComposing
      cases hComposing
  · intro i hPc
    rw [hFrame.async, hFrame.cbCalls]
    rcases hFrame.rx with hSame | ⟨-, hFree⟩
    · exact h.clearing i (hSame ▸ hPc)
    · rw [hPc] at hFree
      cases hFree
  · intro k hAsync hQueued
    rw [hFrame.async, hFrame.timer, hFrame.cbCalls]
    rcases hFrame.accepted k hQueued with hOld | hMem
    · rcases h.due k hAsync hOld with hMem | hOwing | hRest
      · rcases hFrame.rpcTxQ k hMem with hMem | hTx | hNone
        · exact Or.inl hMem
        · exact Or.inr (Or.inl (by rw [hTx]; rfl))
        · exact absurd hDeinit hNone
      · rcases hFrame.tx with hSame | ⟨hNone, -⟩
        · exact Or.inr (Or.inl (by rw [hSame]; exact hOwing))
        · rw [hOwing] at hNone
          cases hNone
      · exact Or.inr (Or.inr hRest)
    · exact Or.inl hMem

/-- The tx thread goes on, and keeps the request whose callback is due. -/
theorem setTx (h : Due cfg s) {tx : TxPc} (hReg : ∀ k, tx = .registering k → s.timer k = .armed)
    (hOwing : ∀ k, (cfg.app k).async = true → s.tx.owing = some k → tx.owing = some k) :
    Due cfg { s with tx } :=
  { h with
    registering := hReg
    due := fun k hAsync hQueued => (h.due k hAsync hQueued).imp_right
      fun hRest => hRest.imp_left (hOwing k hAsync) }

theorem setTimer (h : Due cfg s) {k : Nat} {pc : TimerPc}
    (hReg : s.tx = .registering k → pc = .armed)
    (hDue : (s.timer k).pending = true → pc.pending = true ∨ pc = .calling)
    (hCalling : s.timer k = .calling → pc = .calling ∨ s.cbCalls k = 1) :
    Due cfg { s with timer := Function.update s.timer k pc } :=
  { h with
    registering := fun j hPc => by
      by_cases hEq : j = k
      · subst hEq
        simp only [Function.update_self]
        exact hReg hPc
      · simp only [Function.update_of_ne hEq]
        exact h.registering j hPc
    due := fun j hAsync hQueued => by
      refine (h.due j hAsync hQueued).imp_right fun hRest => hRest.imp_right fun hServed => ?_
      by_cases hEq : j = k
      · subst hEq
        simp only [Function.update_self]
        rcases hServed with ⟨hEntry, hPending⟩ | hCall | hCalled
        · exact (hDue hPending).imp (fun hNew => ⟨hEntry, hNew⟩) Or.inl
        · exact Or.inr (hCalling hCall)
        · exact Or.inr (Or.inr hCalled)
      · simp only [Function.update_of_ne hEq]
        exact hServed }

theorem call (h : Due cfg s) {k : Nat} (hUncalled : s.cbCalls k = 0) :
    Due cfg { s with cbCalls := Function.update s.cbCalls k (s.cbCalls k + 1) } := by
  have hMono : ∀ j, s.cbCalls j = 1 → Function.update s.cbCalls k (s.cbCalls k + 1) j = 1 := by
    intro j hj
    rw [Function.update_of_ne]
    · exact hj
    · rintro rfl
      rw [hUncalled] at hj
      cases hj
  exact { h with
    clearing := fun i hPc => by
      obtain ⟨j, hOwner, hCalled⟩ := h.clearing i hPc
      exact ⟨j, hOwner, hMono j hCalled⟩
    due := fun j hAsync hQueued => (h.due j hAsync hQueued).imp_right fun hRest =>
      hRest.imp_right fun hServed => hServed.imp_right fun hCall => hCall.imp_right (hMono j) }

/-- The entry of a request is cleared whose callback was called, or is called next. -/
theorem clearAsync (h : Due cfg s) (hSound : Sound cfg s) {i : Nat} (hRx : s.rx ≠ .clearing i)
    (hDone : ∀ k, owner s.asyncRspTable i = some k → s.timer k = .calling ∨ s.cbCalls k = 1) :
    Due cfg (s.clearAsyncRespCallback i) := by
  rcases hSound.clearAsync_spec i with ⟨-, hEq⟩ | ⟨k, hOwner, hEq⟩
  · rwa [hEq]
  · rw [hEq]
    have hSame : ∀ j, j ≠ k → stopTimer s.timer (some k) j = s.timer j := fun j hNe =>
      (stopTimer_cases s.timer (some k) j).resolve_right fun hStop =>
        hNe (Option.some.inj hStop.1).symm
    have hCalling : ∀ j, s.timer j = .calling → stopTimer s.timer (some k) j = .calling := by
      intro j hj
      rcases stopTimer_cases s.timer (some k) j with hSame | ⟨-, hArmed, -⟩
      · rw [hSame, hj]
      · rw [hj] at hArmed
        cases hArmed
    exact { h with
      registering := fun j hPc => by
        have hNe : j ≠ k := by
          rintro rfl
          have hPc : s.tx = .registering j := hPc
          exact hSound.tables.owner_not_pending hOwner
            (Calls.pending_of_early (by rw [hPc]; rfl) (hSound.tables.owner_entry hOwner).2.1)
        simp only [hSame j hNe]
        exact h.registering j hPc
      clearing := fun j hPc => by
        have hNe : j ≠ i := by
          rintro rfl
          exact hRx hPc
        simp only [owner_set_ne hNe]
        exact h.clearing j hPc
      due := fun j hAsync hQueued => by
        refine (h.due j hAsync hQueued).imp_right fun hRest => hRest.imp_right fun hServed => ?_
        by_cases hEq : j = k
        · subst hEq
          exact Or.inr ((hDone j hOwner).imp_left (hCalling j))
        · rcases hServed with ⟨⟨l, hl⟩, hPending⟩ | hCall | hCalled
          · refine Or.inl ⟨⟨l, ?_⟩, ?_⟩
            · rw [owner_set_ne]
              · exact hl
              · rintro rfl
                rw [hOwner] at hl
                cases hl
                exact hEq rfl
            · simp only [hSame j hEq]
              exact hPending
          · exact Or.inr (Or.inl (hCalling j hCall))
          · exact Or.inr (Or.inr hCalled) }

end Due

theorem composeReq_due {ok : Bool} (h : Due cfg s) (hStep : composeReq cfg ok s = some s') :
    Due cfg s' := by
  unfold composeReq at hStep
  split at hStep
  · rename_i k hPc
    have hGo : ∀ tx : TxPc, (∀ j, tx ≠ .registering j) →
        ((cfg.app k).async = true → tx.owing = some k) → Due cfg { s with tx } := by
      intro tx hReg hOwing
      apply h.setTx fun j hj => absurd hj (hReg j)
      intro j hAsync hj
      rw [hPc] at hj
      cases hj
      exact hOwing hAsync
    cases hStep
    cases ok with
    | false => exact { hGo (.notifying k) (by simp) fun _ => rfl with }
    | true =>
      cases hAsync : (cfg.app k).async with
      | false => exact { hGo (.sending k) (by simp) (by simp [hAsync]) with }
      | true => exact { hGo (.starting k) (by simp) fun _ => rfl with }
  · cases hStep

theorem startTimer_due {ok : Bool} (hSound : Sound cfg s) (hStarted : Started cfg s)
    (h : Due cfg s) (hStep : startTimer ok s = some s') : Due cfg s' := by
  unfold startTimer at hStep
  split at hStep
  · rename_i k hPc
    split at hStep
    · have hPending : s.Pending cfg k :=
        Calls.pending_of_early (by rw [hPc]; rfl) (hSound.timed k (by rw [hPc]; rfl))
      have hUnarmed := unarmed_of_pending hStarted hPending (by simp [hPc])
      have hArmed : Due cfg { s with timer := Function.update s.timer k .armed } :=
        h.setTimer (fun _ => rfl) (by simp [hUnarmed, TimerPc.pending]) (by simp [hUnarmed])
      have hTx : Due cfg { s with
          timer := Function.update s.timer k .armed, tx := .registering k } := by
        apply hArmed.setTx
        · rintro j ⟨⟩
          exact Function.update_self ..
        · intro j _ hj
          rw [hPc] at hj
          exact hj
      cases hStep
      exact { hTx with }
    · have hFail : Due cfg { s with tx := .notifying k } := by
        apply h.setTx (by simp)
        intro j _ hj
        rw [hPc] at hj
        exact hj
      cases hStep
      exact { hFail with }
  · cases hStep

theorem setAsyncRespCallback_due (h : Due cfg s) (hSound : Sound cfg s)
    (hHanded : HandedOn cfg s .setAsyncRespCallback)
    (hStep : setAsyncRespCallback cfg s = some s') : Due cfg s' := by
  obtain ⟨k, hPc⟩ := registering_of_step hStep
  obtain ⟨i, e, he, hFree, rfl⟩ := setAsyncRespCallback_cases hPc hHanded hStep
  have hAsync : (cfg.app k).async = true := hSound.timed k (by rw [hPc]; rfl)
  have hNe : s.uidOf k ≠ 0 :=
    hSound.tables.uid k
      (hSound.tables.pending k (Calls.pending_of_early (by rw [hPc]; rfl) hAsync)).1
  have hLt : i < s.asyncRspTable.length := (List.getElem?_eq_some_iff.mp he).1
  have hOther : ∀ j l, owner s.asyncRspTable j = some l → j ≠ i := by
    rintro j l hl rfl
    rw [owner_free he hFree] at hl
    cases hl
  exact { h with
    registering := fun j hj => by cases hj
    clearing := fun j hRx => by
      obtain ⟨l, hl, hCalled⟩ := h.clearing j hRx
      refine ⟨l, ?_, hCalled⟩
      rw [owner_set_ne (hOther j l hl)]
      exact hl
    due := fun j hAsync hQueued => by
      rcases h.due j hAsync hQueued with hMem | hOwing | ⟨⟨l, hl⟩, hPending⟩ | hRest
      · exact Or.inl hMem
      · rw [hPc] at hOwing
        cases hOwing
        refine Or.inr (Or.inr (Or.inl ⟨⟨i, ?_⟩, ?_⟩))
        · exact owner_of_entry (List.getElem?_set_self hLt) hNe
        · rw [show (s.touch k).timer k = .armed from h.registering k hPc]
          rfl
      · refine Or.inr (Or.inr (Or.inl ⟨⟨l, ?_⟩, hPending⟩))
        rw [owner_set_ne (hOther l j hl)]
        exact hl
      · exact Or.inr (Or.inr (Or.inr hRest)) }

theorem serialSend_due {ok : Bool} (h : Due cfg s) (hStep : serialSend ok s = some s') :
    Due cfg s' := by
  unfold serialSend at hStep
  split at hStep
  · rename_i k hPc
    have hGo : ∀ tx : TxPc, (∀ j, tx ≠ .registering j) → Due cfg { s with tx } := by
      intro tx hReg
      apply h.setTx fun j hj => absurd hj (hReg j)
      intro j _ hj
      rw [hPc] at hj
      cases hj
    cases hStep
    cases ok with
    | true => exact hGo (.cleaning k) (by simp)
    | false => exact hGo (.notifying k) (by simp)
  · cases hStep

theorem notifyFail_due {callocOk : Bool} (hOnce : AtMostOnce cfg s) (h : Due cfg s)
    (hHanded : HandedOn cfg s (.notifyFail callocOk))
    (hStep : notifyFail cfg callocOk s = some s') : Due cfg s' := by
  unfold notifyFail at hStep
  split at hStep
  · rename_i k hPc
    have hGo : (cfg.app k).async = false → ∀ tx : TxPc, (∀ j, tx ≠ .registering j) →
        Due cfg { s with tx } := by
      intro hSync tx hReg
      apply h.setTx fun j hj => absurd hj (hReg j)
      intro j hAsync hj
      rw [hPc] at hj
      cases hj
      rw [hSync] at hAsync
      cases hAsync
    split at hStep
    · rename_i hFail
      have hSync := hHanded.resolve_left (by simpa using hFail) k (by rw [hPc]; rfl)
      cases hStep
      exact { hGo hSync (.failCleaning k) (by simp) with }
    · split at hStep
      · rename_i hAsync
        have hCalled := h.call (hOnce.notifying k hPc hAsync).1
        cases hStep
        exact { hCalled with
          registering := fun j hj => by cases hj
          due := fun j hAsync hQueued => by
            refine (hCalled.due j hAsync hQueued).imp_right fun hRest => ?_
            rcases hRest with hOwing | hServed
            · simp only [hPc] at hOwing
              cases hOwing
              simp [(hOnce.notifying k hPc hAsync).1]
            · exact Or.inr hServed }
      · rename_i hSync
        have hSync : (cfg.app k).async = false := by simpa using hSync
        split at hStep
        · cases hStep
          exact { hGo hSync (.failCleaning k) (by simp) with }
        · split at hStep
          · have hPost := hGo hSync (.posting k ⟨(cfg.app k).expRespMsgId, 0⟩) (by simp)
            cases hStep
            exact { hPost with }
          · cases hStep
  · cases hStep

theorem callAsync_due (hCalls : Calls cfg s) (hOnce : AtMostOnce cfg s) (h : Due cfg s)
    (hStep : callAsync s = some s') : Due cfg s' := by
  unfold callAsync at hStep
  split at hStep
  · rename_i resp hPc
    have hIdle : Due cfg { s with rx := .idle } := { h with clearing := fun i hi => by cases hi }
    split at hStep
    · cases hStep
      exact hIdle
    · rename_i i hFind
      split at hStep
      · cases hStep
        exact { h with }
      · rename_i k hCb
        obtain ⟨hOwner, -⟩ := hCalls.owner_of_find hFind hCb
        have hUncalled : s.cbCalls k = 0 := by
          by_contra hCalled
          have hRx := hOnce.spent i k hOwner hCalled
          rw [hPc] at hRx
          cases hRx
        have hCalled := hIdle.call hUncalled
        cases hStep
        exact { hCalled with
          clearing := fun j hj => by
            cases hj
            exact ⟨k, hOwner, by simp [hUncalled]⟩ }
  · cases hStep

theorem rxClearAsync_due (hSound : Sound cfg s) (h : Due cfg s)
    (hStep : rxClearAsync s = some s') : Due cfg s' := by
  unfold rxClearAsync at hStep
  split at hStep
  · rename_i i hPc
    obtain ⟨k, hOwner, hCalled⟩ := h.clearing i hPc
    have hIdle : Due cfg { s with rx := .idle } := { h with clearing := fun j hj => by cases hj }
    have hSoundIdle : Sound cfg { s with rx := .idle } := { hSound with }
    cases hStep
    rw [clearAsync_setRx]
    apply hIdle.clearAsync hSoundIdle (by simp)
    intro j hj
    have hSame : some j = some k := hj.symm.trans hOwner
    cases hSame
    exact Or.inr hCalled
  · cases hStep

theorem expire_due {k : Nat} (h : Due cfg s) (hHanded : HandedOn cfg s (.expire k))
    (hStep : expire k s = some s') : Due cfg s' := by
  unfold expire at hStep
  split at hStep
  · rename_i hPc
    cases hStep
    exact h.setTimer (fun hReg => absurd hReg hHanded.1) (fun _ => Or.inl rfl) (by simp [hPc])
  · cases hStep

theorem timerRead_due {callocOk : Bool} {k : Nat} (h : Due cfg s)
    (hHanded : HandedOn cfg s (.timerRead k callocOk)) (hStep : timerRead callocOk k s = some s') :
    Due cfg s' := by
  unfold timerRead at hStep
  split at hStep
  · rename_i hPc
    have hGo : Due cfg { s with timer := Function.update s.timer k .clearing } := by
      apply h.setTimer _ (fun _ => Or.inl rfl) (by simp [hPc])
      intro hReg
      have hArmed := h.registering k hReg
      rw [hPc] at hArmed
      cases hArmed
    cases hStep
    rw [show callocOk = true from hHanded]
    exact { hGo with }
  · cases hStep

/-- The handler finds the entry of its request, and no other. -/
theorem timerClear_due {k : Nat} (hSound : Sound cfg s) (hStarted : Started cfg s)
    (hCalls : Calls cfg s) (hOnce : AtMostOnce cfg s) (h : Due cfg s)
    (hStep : timerClear k s = some s') : Due cfg s' := by
  unfold timerClear at hStep
  split at hStep
  · rename_i hPc
    obtain ⟨hAsync, hQueued, -⟩ := hStarted k (by simp [hPc])
    have hNot : ¬ s.Pending cfg k := hCalls.running k (by rw [hPc]; rfl)
    have hUncalled := hOnce.uncalled_of_running (k := k) (by rw [hPc]; rfl)
    have hEntry : HasEntry s.asyncRspTable k := by
      unfold Pending Rpc.Pending at hNot
      rw [if_pos hAsync, not_or, not_or] at hNot
      rcases h.due k hAsync hQueued with hMem | hOwing | ⟨hEntry, -⟩ | hCall | hCalled
      · exact absurd hMem hNot.2.1
      · cases hTx : s.tx with
        | notifying j =>
          rw [hTx] at hOwing
          cases hOwing
          have hUnarmed := (hOnce.notifying k hTx hAsync).2
          rw [hPc] at hUnarmed
          cases hUnarmed
        | composing j | starting j | registering j =>
          rw [hTx] at hOwing hNot
          exact absurd hOwing hNot.2.2
        | idle | dequeuing | sending | cleaning | posting | failCleaning | scanning | cancelled =>
          rw [hTx] at hOwing
          cases hOwing
      · exact hEntry
      · rw [hPc] at hCall
        cases hCall
      · rw [hUncalled] at hCalled
        cases hCalled
    obtain ⟨i, hOwner⟩ := hEntry
    rw [hSound.tables.owner_find hOwner] at hStep
    have hCall : Due cfg { s with timer := Function.update s.timer k .calling } := by
      apply h.setTimer _ (fun _ => Or.inr rfl) fun _ => Or.inl rfl
      intro hReg
      have hArmed := h.registering k hReg
      rw [hPc] at hArmed
      cases hArmed
    have hSoundCall : Sound cfg { s with timer := Function.update s.timer k .calling } :=
      { hSound with }
    have hRx : s.rx ≠ .clearing i := by
      intro hRx
      obtain ⟨j, hj, hCalled⟩ := h.clearing i hRx
      rw [hOwner] at hj
      cases hj
      rw [hUncalled] at hCalled
      cases hCalled
    have hCleared := hCall.clearAsync hSoundCall hRx fun j hj => by
      have hSame : some j = some k := hj.symm.trans hOwner
      cases hSame
      exact Or.inl (Function.update_self ..)
    -- stopping a timer that has expired does nothing, so the order of the two does not matter
    have hEq : { s.clearAsyncRespCallback i with
          timer := Function.update (s.clearAsyncRespCallback i).timer k .calling } =
        { s with timer := Function.update s.timer k .calling }.clearAsyncRespCallback i := by
      rcases hSound.clearAsync_spec i with ⟨hNone, -⟩ | ⟨j, hj, hOld⟩
      · rw [hOwner] at hNone
        cases hNone
      · rw [hOwner] at hj
        cases hj
        rcases hSoundCall.clearAsync_spec i with ⟨hNone, -⟩ | ⟨l, hl, hNew⟩
        · rw [hOwner] at hNone
          cases hNone
        · have hSame : some k = some l := hOwner.symm.trans hl
          cases hSame
          rw [hOld, hNew, stopTimer_of_ne (by simp [hPc]), stopTimer_of_ne (by simp)]
    cases hStep
    rw [hEq]
    exact hCleared
  · cases hStep

theorem timerCall_due {k : Nat} (hOnce : AtMostOnce cfg s) (h : Due cfg s)
    (hStep : timerCall k s = some s') : Due cfg s' := by
  unfold timerCall at hStep
  split at hStep
  · rename_i hPc
    have hCalled := h.call (hOnce.uncalled_of_running (k := k) (by rw [hPc]; rfl))
    have hUncalled := hOnce.uncalled_of_running (k := k) (by rw [hPc]; rfl)
    cases hStep
    apply hCalled.setTimer
    · intro hReg
      have hArmed := h.registering k hReg
      rw [hPc] at hArmed
      cases hArmed
    · simp [hPc, TimerPc.pending]
    · exact fun _ => Or.inr (by simp [hUncalled])
  · cases hStep

theorem init_due (cfg : Config) : Due cfg (init cfg) :=
  ⟨nofun, nofun, fun _ _ hQueued => by cases hQueued⟩

theorem step_due {a : Action} (hSound : Sound cfg s) (hStarted : Started cfg s)
    (hCalls : Calls cfg s) (hOnce : AtMostOnce cfg s) (h : Due cfg s) (hHanded : HandedOn cfg s a)
    (hStep : step cfg s a = some s') (hDeinit : s'.deinit = .none) : Due cfg s' := by
  by_cases hQuiet : Action.quiet a = true
  · exact h.frame (step_frame hSound hQuiet hStep) hDeinit
  · unfold step at hStep
    split at hStep
    · cases hStep
    · cases a with
      | composeReq ok => exact composeReq_due h hStep
      | startTimer ok => exact startTimer_due hSound hStarted h hStep
      | setAsyncRespCallback => exact setAsyncRespCallback_due h hSound hHanded hStep
      | serialSend ok => exact serialSend_due h hStep
      | notifyFail callocOk => exact notifyFail_due hOnce h hHanded hStep
      | callAsync => exact callAsync_due hCalls hOnce h hStep
      | rxClearAsync => exact rxClearAsync_due hSound h hStep
      | expire k => exact expire_due h hHanded hStep
      | timerRead k callocOk => exact timerRead_due h hHanded hStep
      | timerClear k => exact timerClear_due hSound hStarted hCalls hOnce h hStep
      | timerCall k => exact timerCall_due hOnce h hStep
      | cleanupTables =>
        simp only [cleanupTables, Option.ite_none_right_eq_some] at hStep
        obtain ⟨-, hEq⟩ := hStep
        cases hEq
        cases hDeinit
      | cancelThreads =>
        simp only [cancelThreads, Option.ite_none_right_eq_some] at hStep
        obtain ⟨-, hEq⟩ := hStep
        cases hEq
        cases hDeinit
      | _ => exact absurd rfl hQuiet

theorem clearAsync_deinit (i : Nat) (s : Core) :
    (s.clearAsyncRespCallback i).deinit = s.deinit := by
  rcases clearAsync_cases i s with hEq | ⟨e, -, -, hEq⟩ <;> rw [hEq]

/-- De-initialization is not taken back. -/
theorem step_deinit {a : Action} (hSound : Sound cfg s) (hStep : step cfg s a = some s')
    (hDeinit : s'.deinit = .none) : s.deinit = .none := by
  by_contra hOld
  by_cases hQuiet : Action.quiet a = true
  · exact (step_frame hSound hQuiet hStep).deinit hOld hDeinit
  · unfold step at hStep
    split at hStep
    · cases hStep
    · cases a with
      | rxClearAsync =>
        simp only [rxClearAsync] at hStep
        split at hStep
        · cases hStep
          exact hOld ((clearAsync_deinit _ s).symm.trans hDeinit)
        · cases hStep
      | timerClear k =>
        simp only [timerClear, Option.ite_none_right_eq_some] at hStep
        obtain ⟨-, hEq⟩ := hStep
        cases hEq
        dsimp only at hDeinit
        split at hDeinit
        · exact hOld hDeinit
        · exact hOld ((clearAsync_deinit _ s).symm.trans hDeinit)
      | composeReq | startTimer | setAsyncRespCallback | serialSend | notifyFail | callAsync
      | expire | timerRead | timerCall | cleanupTables | cancelThreads =>
        simp only [composeReq, startTimer, setAsyncRespCallback, serialSend, notifyFail, callAsync,
          expire, timerRead, timerCall, cleanupTables, cancelThreads] at hStep
        (repeat' split at hStep) <;> cases hStep <;> first | exact hOld hDeinit | cases hDeinit
      | _ => exact absurd rfl hQuiet

/-! ## Every run that hands the callback on -/

/-- A callback was called once at most. It was called if the core is not de-initialized, the
request was accepted, the tx thread is done with it and its timer is not running. -/
def CalledOnce (cfg : Config) (s : Core) : Prop :=
  ∀ k, (cfg.app k).async = true → s.cbCalls k ≤ 1 ∧
    (s.deinit = .none → (s.caller k).queued = true → k ∉ s.rpcTxQ → s.tx.held ≠ some k →
      s.timer k = .unarmed ∨ s.timer k = .over → s.cbCalls k = 1)

/-- What the steps keep that hand the callback on. -/
structure HandedOn.Inv (cfg : Config) (s : Core) : Prop where
  sound : Sound cfg s
  started : Started cfg s
  calls : Calls cfg s
  once : AtMostOnce cfg s
  due : s.deinit = .none → Due cfg s

def asyncOnly : Config := { maxSync := 5, maxAsync := 5, app := fun _ => ⟨257, true⟩ }

/-- Request `k` is accepted and its callback registered. -/
def registerAsync (k : Nat) : List Action :=
  [.sendReq, .queueTx k true, .rpcTxInd k, .readRspCb k, .txTakeSem, .recvTx, .composeReq true,
    .startTimer true, .setAsyncRespCallback]

/-- One request is answered, with a response that comes twice; another one times out. -/
def answerAndTimeout : List Action :=
  registerAsync 0 ++ ([.serialSend true, .txCleanup] : List Action) ++ registerAsync 1 ++
    ([.serialSend true, .txCleanup, .recvResp ⟨513, 1⟩, .isAsyncAvailable, .callAsync,
      .rxClearAsync, .expire 1, .timerRead 1 true, .recvResp ⟨513, 1⟩, .isAsyncAvailable,
      .timerClear 1, .timerCall 1] : List Action)

/-- The message cannot be sent; the application is told so, and again by the timer. -/
def sendFailure : List Action :=
  registerAsync 0 ++ ([.serialSend false, .notifyFail true, .failCleanup, .scanAsync, .expire 0,
    .timerRead 0 true, .timerClear 0, .timerCall 0] : List Action)

end Core

end EspHosted.Rpc
