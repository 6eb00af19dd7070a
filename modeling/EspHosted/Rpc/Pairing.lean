import EspHosted.Rpc.Tables

/-!
# Responses to synchronous requests

A caller is woken by the semaphore of its own table entry, but takes its response from the
front of `rpc_rx_q`, whatever that response is. The invariant says that the responses in the
queue are those of the callers that were woken, in this order.

* `own_response`: as long as that order is kept and every response in the queue has a caller
  that waits for it, each caller is handed the response to its own request;
* `not_own_response`: after a timeout, the late response is handed to the next caller.
-/

namespace EspHosted.Rpc

open Slots Machine

/-! ## The condition -/

/-- The thread has registered and not come to `h_sem_take` yet. -/
def CallerPc.ready : CallerPc → Bool
  | .queueing | .indicating | .returned | .lookup => true
  | _ => false

/-- The thread will take its semaphore, or is about to. -/
def CallerPc.expects : CallerPc → Bool
  | .waiting .. => true
  | pc => pc.ready

/-- The thread has an entry of `sync_rsp_table`, if its request is synchronous. -/
def CallerPc.registered : CallerPc → Bool
  | .taken .. => true
  | pc => pc.expects

/-- A response to the request, if it is synchronous, is not taken yet. -/
def CallerPc.unserved : CallerPc → Bool
  | .receiving => true
  | pc => pc.registered

theorem CallerPc.expects_of_ready {pc : CallerPc} (h : pc.ready = true) : pc.expects = true := by
  cases pc <;> first | rfl | exact h

theorem CallerPc.registered_of_expects {pc : CallerPc} (h : pc.expects = true) :
    pc.registered = true := by
  cases pc <;> first | rfl | exact h

theorem CallerPc.unserved_of_registered {pc : CallerPc} (h : pc.registered = true) :
    pc.unserved = true := by
  cases pc <;> first | rfl | exact h

/-- What `rpc_wait_and_parse_sync_resp` has got, and will return. -/
def CallerPc.result : CallerPc → Option Resp
  | .freeing resp | .finished resp => resp
  | _ => none

/-- The response that is about to go into `rpc_rx_q`. -/
def RxPc.offered : RxPc → Option Resp
  | .queueing resp => some resp
  | _ => none

namespace Core

/-- A request in `sync_rsp_table` has the uid of the response and was not answered yet, and
its caller has not given up. -/
def Awaited (s : Core) (resp : Resp) : Prop :=
  resp.InRange ∧ resp.uid ≠ 0 ∧ ∃ i ∈ find s.syncRspTable resp.uid,
    ∃ k ∈ (s.syncRspTable[i]?).bind (·.item),
    (s.caller k).expects = true ∧ s.sem k = .live false

instance (s : Core) (resp : Resp) : Decidable (Awaited s resp) :=
  inferInstanceAs (Decidable (_ ∧ _))

/-- No response to request `k` is in `rpc_rx_q`. -/
def Unanswered (s : Core) (k : Nat) : Prop :=
  s.sem k ≠ .live true ∧ ∀ resp ∈ s.rx.posted, resp.uid ≠ s.uidOf k

instance (s : Core) (k : Nat) : Decidable (Unanswered s k) :=
  inferInstanceAs (Decidable (_ ∧ _))

/-- The steps in which nothing upsets the pairing: a uid is not taken while it is in use; a
response goes into `rpc_rx_q` only for a caller that waits for it, and no failed response of
the tx thread does; a caller does not give up when its response is in the queue already; and
callers take responses in the order in which they were woken. -/
def InTurn (cfg : Config) (s : Core) : Action → Prop
  | .sendReq => FreshUid cfg s .sendReq
  | .queueTx k ok => ok = true ∨ Unanswered s k
  | .semTimeout k => Unanswered s k
  | .recvRx k => s.rpcRxQOpen = true → s.woken.head? = some k
  | .notifyFail callocOk => callocOk = true → s.rpcRxQOpen = true →
      ∀ k ∈ s.tx.held, (cfg.app k).async = true
  | .queueRx => s.rpcRxQOpen = true → ∀ resp ∈ s.rx.offered, Awaited s resp
  | _ => True

instance (cfg : Config) (s : Core) (a : Action) : Decidable (InTurn cfg s a) := by
  apply Action.casesOn (motive := fun a => Decidable (InTurn cfg s a)) a <;> intros <;>
    unfold InTurn <;> infer_instance

/-! ## The invariant -/

/-- The caller was woken and has not taken its response. -/
def Answered (pc : CallerPc) (sem : Sem) : Prop :=
  (pc.expects = true ∧ sem = .live true) ∨ (∃ i, pc = .taken i true) ∨ pc = .receiving

theorem Answered.unserved {pc : CallerPc} {sem : Sem} (h : Answered pc sem) :
    pc.unserved = true := by
  rcases h with ⟨hExpects, -⟩ | ⟨i, rfl⟩ | rfl
  · exact CallerPc.unserved_of_registered (CallerPc.registered_of_expects hExpects)
  · rfl
  · rfl

theorem Answered.given {pc : CallerPc} {sem : Sem} (h : Answered pc sem)
    (hExpects : pc.expects = true) : sem = .live true := by
  rcases h with ⟨-, hGiven⟩ | ⟨i, rfl⟩ | rfl
  · exact hGiven
  · cases hExpects
  · cases hExpects

/-- While `rpc_rx_q` exists: its content, and what the callers have in `sync_rsp_table`. -/
structure Pairing (cfg : Config) (uidOf : Nat → Nat) (caller : Nat → CallerPc) (sem : Nat → Sem)
    (sync : List (Slot (Option Nat))) (posted : Option Resp) (rpcRxQ : List Resp)
    (woken : List Nat) : Prop where
  queue : rpcRxQ.map Resp.uid = woken.map uidOf ++ (posted.map Resp.uid).toList
  nodup : woken.Nodup
  answered : ∀ k ∈ woken, (cfg.app k).async = false ∧ Answered (caller k) (sem k)
  ready : ∀ k, (cfg.app k).async = false → (caller k).ready = true →
    (cfg.app k).expRespMsgId < rpcIdRespMax ∧ ∃ i : Nat, sync[i]? = some (syncEntry uidOf k)
  waiting : ∀ (k i : Nat) (own : Option Nat), caller k = .waiting i own →
    sync[i]? = some (syncEntry uidOf k) ∧ own = some k
  taken : ∀ (k i : Nat) (ok : Bool), caller k = .taken i ok →
    sync[i]? = some (syncEntry uidOf k)
  posted : ∀ resp, posted = some resp → resp.InRange ∧
    ∃ k, (cfg.app k).async = false ∧ uidOf k = resp.uid ∧ (caller k).expects = true ∧
      sem k = .live false

namespace Pairing

variable {cfg : Config} {uidOf : Nat → Nat} {caller : Nat → CallerPc} {sem : Nat → Sem}
  {sync : List (Slot (Option Nat))} {posted : Option Resp} {rpcRxQ : List Resp}
  {woken : List Nat}

/-- A synchronous request whose caller expects a response has an entry. -/
theorem entry (h : Pairing cfg uidOf caller sem sync posted rpcRxQ woken) {k : Nat}
    (hSync : (cfg.app k).async = false) (hExpects : (caller k).expects = true) :
    ∃ i : Nat, sync[i]? = some (syncEntry uidOf k) := by
  cases hPc : caller k with
  | waiting i own => exact ⟨i, (h.waiting k i own hPc).1⟩
  | queueing | indicating | returned | lookup =>
    exact (h.ready k hSync (by rw [hPc]; rfl)).2
  | unborn | registering | taken | receiving | freeing | finished | failing | failed =>
    rw [hPc] at hExpects
    cases hExpects

/-- One thread moves on. -/
theorem move (h : Pairing cfg uidOf caller sem sync posted rpcRxQ woken) {k : Nat} {pc : CallerPc}
    (hAnswered : k ∈ woken → Answered pc (sem k))
    (hReady : (cfg.app k).async = false → pc.ready = true →
      (cfg.app k).expRespMsgId < rpcIdRespMax ∧ ∃ i : Nat, sync[i]? = some (syncEntry uidOf k))
    (hWaiting : ∀ (i : Nat) (own : Option Nat), pc = .waiting i own →
      sync[i]? = some (syncEntry uidOf k) ∧ own = some k)
    (hTaken : ∀ (i : Nat) (ok : Bool), pc = .taken i ok → sync[i]? = some (syncEntry uidOf k))
    (hPosted : (cfg.app k).async = false → ∀ resp, posted = some resp → uidOf k = resp.uid →
      (caller k).expects = true → sem k = .live false → pc.expects = true) :
    Pairing cfg uidOf (Function.update caller k pc) sem sync posted rpcRxQ woken := by
  refine ⟨h.queue, h.nodup, ?_, ?_, ?_, ?_, ?_⟩
  · intro j hj
    by_cases hEq : j = k
    · subst hEq
      rw [Function.update_self]
      exact ⟨(h.answered j hj).1, hAnswered hj⟩
    · rw [Function.update_of_ne hEq]
      exact h.answered j hj
  · intro j hSync hj
    by_cases hEq : j = k
    · subst hEq
      rw [Function.update_self] at hj
      exact hReady hSync hj
    · rw [Function.update_of_ne hEq] at hj
      exact h.ready j hSync hj
  · intro j i own hj
    by_cases hEq : j = k
    · subst hEq
      rw [Function.update_self] at hj
      exact hWaiting i own hj
    · rw [Function.update_of_ne hEq] at hj
      exact h.waiting j i own hj
  · intro j i ok hj
    by_cases hEq : j = k
    · subst hEq
      rw [Function.update_self] at hj
      exact hTaken i ok hj
    · rw [Function.update_of_ne hEq] at hj
      exact h.taken j i ok hj
  · intro resp hResp
    obtain ⟨hRange, j, hSync, hUid, hExpects, hSem⟩ := h.posted resp hResp
    refine ⟨hRange, j, hSync, hUid, ?_, hSem⟩
    by_cases hEq : j = k
    · subst hEq
      rw [Function.update_self]
      exact hPosted hSync resp hResp hUid hExpects hSem
    · rwa [Function.update_of_ne hEq]

/-- From one place before `h_sem_take` to another. -/
theorem move_ready (h : Pairing cfg uidOf caller sem sync posted rpcRxQ woken) {k : Nat}
    {pc : CallerPc} (hOld : (caller k).ready = true) (hNew : pc.ready = true) :
    Pairing cfg uidOf (Function.update caller k pc) sem sync posted rpcRxQ woken := by
  have hExpects := CallerPc.expects_of_ready hNew
  apply h.move
  · intro hk
    exact Or.inl ⟨hExpects, (h.answered k hk).2.given (CallerPc.expects_of_ready hOld)⟩
  · exact fun hSync _ => h.ready k hSync hOld
  · rintro i own rfl
    cases hNew
  · rintro i ok rfl
    cases hNew
  · exact fun _ _ _ _ _ _ => hExpects

/-- A thread whose request is not answered moves on to a place where no response is expected. -/
theorem move_away (h : Pairing cfg uidOf caller sem sync posted rpcRxQ woken) {k : Nat}
    {pc : CallerPc} (hWoken : k ∉ woken) (hNew : pc.registered = false)
    (hPosted : (cfg.app k).async = false → ∀ resp, posted = some resp → uidOf k = resp.uid →
      (caller k).expects = true → sem k ≠ .live false) :
    Pairing cfg uidOf (Function.update caller k pc) sem sync posted rpcRxQ woken := by
  apply h.move
  · exact fun hk => absurd hk hWoken
  · intro _ hReady
    rw [CallerPc.registered_of_expects (CallerPc.expects_of_ready hReady)] at hNew
    cases hNew
  · rintro i own rfl
    cases hNew
  · rintro i ok rfl
    cases hNew
  · exact fun hSync resp hResp hUid hExpects hSem =>
      absurd hSem (hPosted hSync resp hResp hUid hExpects)

theorem setSem (h : Pairing cfg uidOf caller sem sync posted rpcRxQ woken) {k : Nat} {v : Sem}
    (hAnswered : k ∈ woken → Answered (caller k) v) (hExpects : (caller k).expects = false) :
    Pairing cfg uidOf caller (Function.update sem k v) sync posted rpcRxQ woken := by
  refine ⟨h.queue, h.nodup, ?_, h.ready, h.waiting, h.taken, ?_⟩
  · intro j hj
    by_cases hEq : j = k
    · subst hEq
      rw [Function.update_self]
      exact ⟨(h.answered j hj).1, hAnswered hj⟩
    · rw [Function.update_of_ne hEq]
      exact h.answered j hj
  · intro resp hResp
    obtain ⟨hRange, j, hSync, hUid, hExp, hSem⟩ := h.posted resp hResp
    refine ⟨hRange, j, hSync, hUid, hExp, ?_⟩
    rw [Function.update_of_ne]
    · exact hSem
    · rintro rfl
      rw [hExpects] at hExp
      cases hExp

/-- An entry that no registered thread has is overwritten. -/
theorem setEntry (h : Pairing cfg uidOf caller sem sync posted rpcRxQ woken) {i : Nat}
    {e : Slot (Option Nat)}
    (hFree : ∀ k, (caller k).registered = true → sync[i]? ≠ some (syncEntry uidOf k)) :
    Pairing cfg uidOf caller sem (sync.set i e) posted rpcRxQ woken := by
  have hKeep : ∀ {j k : Nat}, (caller k).registered = true →
      sync[j]? = some (syncEntry uidOf k) → (sync.set i e)[j]? = some (syncEntry uidOf k) := by
    intro j k hk hj
    rw [List.getElem?_set_ne]
    · exact hj
    · rintro rfl
      exact hFree k hk hj
  refine ⟨h.queue, h.nodup, h.answered, ?_, ?_, ?_, h.posted⟩
  · intro k hSync hk
    obtain ⟨hRange, j, hj⟩ := h.ready k hSync hk
    have hRegistered := CallerPc.registered_of_expects (CallerPc.expects_of_ready hk)
    exact ⟨hRange, j, hKeep hRegistered hj⟩
  · intro k j own hk
    obtain ⟨hj, hOwn⟩ := h.waiting k j own hk
    exact ⟨hKeep (by rw [hk]; rfl) hj, hOwn⟩
  · exact fun k j ok hk => hKeep (by rw [hk]; rfl) (h.taken k j ok hk)

/-- A caller in a place where it cannot have been woken. -/
theorem not_woken (h : Pairing cfg uidOf caller sem sync posted rpcRxQ woken) {k : Nat}
    (hNot : (caller k).unserved = false) : k ∉ woken := by
  intro hk
  rw [(h.answered k hk).2.unserved] at hNot
  cases hNot

/-- The semaphore of the response that was queued last is given. -/
theorem give (h : Pairing cfg uidOf caller sem sync posted rpcRxQ woken) {resp : Resp} {k : Nat}
    (hPosted : posted = some resp) (hSync : (cfg.app k).async = false) (hUid : uidOf k = resp.uid)
    (hExpects : (caller k).expects = true) (hSem : sem k = .live false) :
    Pairing cfg uidOf caller (Function.update sem k (.live true)) sync none rpcRxQ
      (woken ++ [k]) := by
  have hWoken : k ∉ woken := by
    intro hk
    have hGiven := (h.answered k hk).2.given hExpects
    rw [hSem] at hGiven
    cases hGiven
  refine ⟨?_, ?_, ?_, h.ready, h.waiting, h.taken, fun resp hResp => by cases hResp⟩
  · rw [h.queue, hPosted]
    simp [hUid]
  · rw [List.nodup_append]
    refine ⟨h.nodup, by simp, ?_⟩
    rintro a ha b hb rfl
    exact hWoken (List.mem_singleton.mp hb ▸ ha)
  · intro j hj
    by_cases hEq : j = k
    · subst hEq
      rw [Function.update_self]
      exact ⟨hSync, Or.inl ⟨hExpects, rfl⟩⟩
    · rw [Function.update_of_ne hEq]
      refine h.answered j ((List.mem_append.mp hj).resolve_right ?_)
      rw [List.mem_singleton]
      exact hEq

/-- The first of the woken callers takes the first response, which is its own. -/
theorem take {resp : Resp} {k : Nat}
    (h : Pairing cfg uidOf caller sem sync posted (resp :: rpcRxQ) woken)
    (hHead : woken.head? = some k) :
    resp.uid = uidOf k ∧
      Pairing cfg uidOf (Function.update caller k (.freeing (some resp))) sem sync posted rpcRxQ
        (woken.erase k) := by
  obtain ⟨woken, rfl⟩ := List.head?_eq_some_iff.mp hHead
  have hQueue := h.queue
  simp only [List.map_cons, List.cons_append, List.cons.injEq] at hQueue
  obtain ⟨hUid, hQueue⟩ := hQueue
  obtain ⟨hFirst, hNodup⟩ := List.nodup_cons.mp h.nodup
  have hRest : Pairing cfg uidOf caller sem sync posted rpcRxQ woken :=
    ⟨hQueue, hNodup, fun j hj => h.answered j (List.mem_cons_of_mem k hj), h.ready, h.waiting,
      h.taken, h.posted⟩
  refine ⟨hUid, ?_⟩
  rw [List.erase_cons_head]
  apply hRest.move_away hFirst rfl
  intro _ r _ _ hExpects hSem
  have hGiven := (h.answered k List.mem_cons_self).2.given hExpects
  rw [hSem] at hGiven
  cases hGiven

/-- A request that was not sent yet gets a uid. -/
theorem issue (h : Pairing cfg uidOf caller sem sync posted rpcRxQ woken) {k : Nat}
    (hBorn : caller k = .unborn) (u : Nat) :
    Pairing cfg (Function.update uidOf k u) caller sem sync posted rpcRxQ woken := by
  have hUid : ∀ {j}, caller j ≠ .unborn → Function.update uidOf k u j = uidOf j := by
    intro j hj
    apply Function.update_of_ne
    rintro rfl
    exact hj hBorn
  have hEntry : ∀ {j}, caller j ≠ .unborn →
      syncEntry (Function.update uidOf k u) j = syncEntry uidOf j := by
    intro j hj
    rw [syncEntry, hUid hj, syncEntry]
  have hNot : ∀ {j}, (caller j).registered = true → caller j ≠ .unborn := by
    intro j hj hEq
    rw [hEq] at hj
    cases hj
  refine ⟨?_, h.nodup, h.answered, ?_, ?_, ?_, ?_⟩
  · rw [h.queue]
    refine congrArg (· ++ _) (List.map_congr_left fun j hj => (hUid ?_).symm)
    intro hEq
    exact h.not_woken (by rw [hEq]; rfl) hj
  · intro j hSync hj
    rw [hEntry (hNot (CallerPc.registered_of_expects (CallerPc.expects_of_ready hj)))]
    exact h.ready j hSync hj
  · intro j i own hj
    rw [hEntry (hNot (by rw [hj]; rfl))]
    exact h.waiting j i own hj
  · intro j i ok hj
    rw [hEntry (hNot (by rw [hj]; rfl))]
    exact h.taken j i ok hj
  · intro resp hResp
    obtain ⟨hRange, j, hSync, hEq, hExpects, hSem⟩ := h.posted resp hResp
    refine ⟨hRange, j, hSync, ?_, hExpects, hSem⟩
    rwa [hUid (hNot (CallerPc.registered_of_expects hExpects))]

/-- A response for a caller that waits for it goes into the queue. -/
theorem post (h : Pairing cfg uidOf caller sem sync none rpcRxQ woken) {resp : Resp} {k : Nat}
    (hRange : resp.InRange) (hSync : (cfg.app k).async = false) (hUid : uidOf k = resp.uid)
    (hExpects : (caller k).expects = true) (hSem : sem k = .live false) :
    Pairing cfg uidOf caller sem sync (some resp) (rpcRxQ ++ [resp]) woken := by
  refine ⟨?_, h.nodup, h.answered, h.ready, h.waiting, h.taken, ?_⟩
  · rw [List.map_append, h.queue]
    simp
  · rintro r ⟨⟩
    exact ⟨hRange, k, hSync, hUid, hExpects, hSem⟩

end Pairing

/-! ## Every run in turn -/

/-- Every caller has what belongs to its request. -/
def Handed (uidOf : Nat → Nat) (caller : Nat → CallerPc) : Prop :=
  ∀ k resp, (caller k).result = some resp → resp.uid = uidOf k

theorem Handed.move {uidOf : Nat → Nat} {caller : Nat → CallerPc} (h : Handed uidOf caller)
    {k : Nat} {pc : CallerPc} (hOwn : ∀ resp, pc.result = some resp → resp.uid = uidOf k) :
    Handed uidOf (Function.update caller k pc) := by
  intro j resp hj
  by_cases hEq : j = k
  · subst hEq
    rw [Function.update_self] at hj
    exact hOwn resp hj
  · rw [Function.update_of_ne hEq] at hj
    exact h j resp hj

/-- While there is a `rpc_rx_q`, it is paired with the callers. -/
structure Paired (cfg : Config) (s : Core) : Prop where
  handed : Handed s.uidOf s.caller
  noPost : ∀ k resp, s.tx ≠ .posting k resp
  closed : s.deinit ≠ .none → s.rpcRxQOpen = false
  pairing : s.rpcRxQOpen = true →
    Pairing cfg s.uidOf s.caller s.sem s.syncRspTable s.rx.posted s.rpcRxQ s.woken

variable {cfg : Config} {s s' : Core}

namespace Paired

theorem touch (h : Paired cfg s) (k : Nat) : Paired cfg (s.touch k) :=
  ⟨h.handed, h.noPost, h.closed, h.pairing⟩

theorem setCaller (h : Paired cfg s) {k : Nat} {pc : CallerPc} (hNone : pc.result = none)
    (hPairing : s.rpcRxQOpen = true → Pairing cfg s.uidOf (Function.update s.caller k pc) s.sem
      s.syncRspTable s.rx.posted s.rpcRxQ s.woken) : Paired cfg (s.setCaller k pc) :=
  ⟨h.handed.move fun resp hResp => (by rw [hNone] at hResp; cases hResp), h.noPost, h.closed,
    hPairing⟩

theorem setTx (h : Paired cfg s) {tx : TxPc} (hTx : ∀ k resp, tx ≠ .posting k resp) :
    Paired cfg { s with tx } :=
  ⟨h.handed, hTx, h.closed, h.pairing⟩

theorem setRx (h : Paired cfg s) {rx : RxPc} (hOld : s.rx.posted = none) (hNew : rx.posted = none) :
    Paired cfg { s with rx } := by
  refine ⟨h.handed, h.noPost, h.closed, fun hOpen => ?_⟩
  have hPairing := h.pairing hOpen
  rw [hOld] at hPairing
  simpa only [hNew] using hPairing

theorem clearAsync (h : Paired cfg s) (i : Nat) : Paired cfg (s.clearAsyncRespCallback i) := by
  rcases clearAsync_cases i s with hEq | ⟨e, -, -, hEq⟩
  · rwa [hEq]
  · rw [hEq]
    exact ⟨h.handed, h.noPost, h.closed, h.pairing⟩

end Paired

/-! ### Callers -/

theorem sendReq_paired (hSound : Sound cfg s) (h : Paired cfg s)
    (hStep : sendReq cfg s = some s') : Paired cfg s' := by
  cases hStep
  have hBorn := hSound.queued.born s.next (Nat.le_refl _)
  have hNone : (if (cfg.app s.next).async then CallerPc.queueing else .registering).result
      = none := by
    split <;> rfl
  refine ⟨?_, h.noPost, h.closed, fun hOpen => ?_⟩
  · apply Handed.move
    · intro j resp hj
      have hNe : j ≠ s.next := by
        rintro rfl
        rw [hBorn] at hj
        cases hj
      refine (h.handed j resp hj).trans ?_
      exact (Function.update_of_ne hNe _ _).symm
    · intro resp hResp
      rw [hNone] at hResp
      cases hResp
  · have hPairing := (h.pairing hOpen).issue hBorn s.nextUid
    apply hPairing.move
    · exact fun hk => absurd hk (hPairing.not_woken (by rw [hBorn]; rfl))
    · intro hSync hReady
      rw [hSync] at hReady
      cases hReady
    · intro i own hEq
      split at hEq <;> cases hEq
    · intro i ok hEq
      split at hEq <;> cases hEq
    · intro _ _ _ _ hExpects
      rw [hBorn] at hExpects
      cases hExpects

/-- A caller whose request is in `sync_rsp_table` or has not been sent. -/
theorem entry_ne_free (hSound : Sound cfg s) {i k : Nat} {e : Slot (Option Nat)}
    (hEntry : s.syncRspTable[i]? = some e) (hFree : e.uid = 0)
    (hRegistered : (s.caller k).registered = true) :
    s.syncRspTable[i]? ≠ some (syncEntry s.uidOf k) := by
  intro hEq
  have hBorn : s.caller k ≠ .unborn := by
    intro hUnborn
    rw [hUnborn] at hRegistered
    cases hRegistered
  rw [hEntry] at hEq
  cases hEq
  exact hSound.tables.uid k (hSound.queued.lt_next hBorn) hFree

theorem setSyncRespSem_paired {createOk : Bool} {k : Nat} (hSound : Sound cfg s)
    (h : Paired cfg s) (hStep : setSyncRespSem cfg createOk k s = some s') : Paired cfg s' := by
  unfold setSyncRespSem at hStep
  split at hStep
  · rename_i hPc
    have hIdle : s.rpcRxQOpen = true → k ∉ s.woken ∧ ∀ v, Pairing cfg s.uidOf s.caller
        (Function.update s.sem k v) s.syncRspTable s.rx.posted s.rpcRxQ s.woken := by
      intro hOpen
      have hWoken := (h.pairing hOpen).not_woken (k := k) (by rw [hPc]; rfl)
      exact ⟨hWoken, fun v =>
        (h.pairing hOpen).setSem (fun hk => absurd hk hWoken) (by rw [hPc]; rfl)⟩
    have hAway : (s.caller k).expects ≠ true := by
      rw [hPc]
      decide
    split at hStep
    · cases hStep
      refine (h.setCaller rfl fun hOpen => ?_).touch k
      exact (h.pairing hOpen).move_away (hIdle hOpen).1 rfl
        fun _ _ _ _ hExpects => absurd hExpects hAway
    · rename_i hOk
      split at hStep
      · cases hStep
        refine ⟨h.handed.move fun _ hResp => (by cases hResp), h.noPost, h.closed, fun hOpen => ?_⟩
        exact ((hIdle hOpen).2 _).move_away (hIdle hOpen).1 rfl
          fun _ _ _ _ hExpects => absurd hExpects hAway
      · rename_i i hFind
        obtain ⟨e, he, hFree⟩ := find_some hFind
        have hLt : i < s.syncRspTable.length := (List.getElem?_eq_some_iff.mp he).1
        have hEntry : (s.syncRspTable.set i (syncEntry s.uidOf k))[i]? =
            some (syncEntry s.uidOf k) := List.getElem?_set_self hLt
        cases hStep
        refine ⟨h.handed.move fun _ hResp => (by cases hResp), h.noPost, h.closed, fun hOpen => ?_⟩
        have hFilled := ((hIdle hOpen).2 (.live false)).setEntry (i := i)
          (e := syncEntry s.uidOf k) fun j hj => entry_ne_free hSound he hFree hj
        apply hFilled.move
        · exact fun hk => absurd hk (hIdle hOpen).1
        · exact fun _ _ => ⟨by omega, i, hEntry⟩
        · rintro j own ⟨⟩
        · rintro j ok ⟨⟩
        · exact fun _ _ _ _ _ _ => rfl
  · cases hStep

theorem queueTx_paired {ok : Bool} {k : Nat} (h : Paired cfg s)
    (hTurn : InTurn cfg s (.queueTx k ok)) (hStep : queueTx ok k s = some s') :
    Paired cfg s' := by
  unfold queueTx at hStep
  split at hStep
  · rename_i hPc
    split at hStep
    · split at hStep
      · have hNext : Paired cfg (s.setCaller k .indicating) :=
          h.setCaller rfl fun hOpen => (h.pairing hOpen).move_ready (by rw [hPc]; rfl) rfl
        cases hStep
        exact ⟨hNext.handed, hNext.noPost, hNext.closed, hNext.pairing⟩
      · cases hStep
    · rename_i hFail
      obtain ⟨hSem, hPosted⟩ := hTurn.resolve_left hFail
      cases hStep
      refine h.setCaller rfl fun hOpen => (h.pairing hOpen).move_away ?_ rfl ?_
      · exact fun hk => hSem (((h.pairing hOpen).answered k hk).2.given (by rw [hPc]; rfl))
      · exact fun _ resp hResp hUid _ _ => hPosted resp hResp hUid.symm
  · cases hStep

theorem failReq_paired {k : Nat} (h : Paired cfg s) (hStep : failReq k s = some s') :
    Paired cfg s' := by
  obtain ⟨hPc, rfl⟩ := failReq_some hStep
  have hNext : Paired cfg (s.setCaller k .failed) := by
    refine h.setCaller rfl fun hOpen => (h.pairing hOpen).move_away ?_ rfl ?_
    · exact (h.pairing hOpen).not_woken (by rw [hPc]; rfl)
    · intro _ _ _ _ hExpects
      rw [hPc] at hExpects
      cases hExpects
  refine ⟨hNext.handed, hNext.noPost, hNext.closed, fun hOpen => ?_⟩
  by_cases hAbsent : s.sem k = .absent
  · simp only [hAbsent, if_true]
    exact hNext.pairing hOpen
  · simp only [hAbsent, if_false]
    have hPairing := hNext.pairing hOpen
    have hFailed : (s.setCaller k .failed).caller k = .failed := Function.update_self ..
    apply hPairing.setSem
    · exact fun hk => absurd hk (hPairing.not_woken (by rw [hFailed]; rfl))
    · rw [hFailed]
      rfl

theorem rpcTxInd_paired {k : Nat} (h : Paired cfg s) (hStep : rpcTxInd cfg k s = some s') :
    Paired cfg s' := by
  unfold rpcTxInd at hStep
  split at hStep
  · rename_i hPc
    have hNext : Paired cfg (s.setCaller k .returned) :=
      h.setCaller rfl fun hOpen => (h.pairing hOpen).move_ready (by rw [hPc]; rfl) rfl
    cases hStep
    exact ⟨hNext.handed, hNext.noPost, hNext.closed, hNext.pairing⟩
  · cases hStep

theorem readRspCb_paired {k : Nat} (h : Paired cfg s) (hStep : readRspCb cfg k s = some s') :
    Paired cfg s' := by
  unfold readRspCb at hStep
  split at hStep
  · rename_i hPc
    cases hStep
    cases hAsync : (cfg.app k).async with
    | false =>
      refine (h.setCaller rfl fun hOpen => ?_).touch k
      exact (h.pairing hOpen).move_ready (by rw [hPc]; rfl) rfl
    | true =>
      -- a caller that was woken has a synchronous request
      refine (h.setCaller rfl fun hOpen => (h.pairing hOpen).move_away ?_ rfl ?_).touch k
      · intro hk
        rw [((h.pairing hOpen).answered k hk).1] at hAsync
        cases hAsync
      · intro hSync
        rw [hSync] at hAsync
        cases hAsync
  · cases hStep

theorem lookupSem_paired {k : Nat} (hSound : Sound cfg s) (h : Paired cfg s)
    (hStep : lookupSem cfg k s = some s') : Paired cfg s' := by
  unfold lookupSem at hStep
  split at hStep
  · rename_i hPc
    have hSync : (cfg.app k).async = false := hSound.kind k (by rw [hPc]; rfl)
    have hNe : s.uidOf k ≠ 0 :=
      hSound.tables.uid k (hSound.queued.lt_next (by rw [hPc]; decide))
    have hFound : s.rpcRxQOpen = true → (cfg.app k).expRespMsgId < rpcIdRespMax ∧
        ∃ i, find s.syncRspTable (s.uidOf k) = some i ∧
          s.syncRspTable[i]? = some (syncEntry s.uidOf k) := by
      intro hOpen
      obtain ⟨hRange, i, hEntry⟩ := (h.pairing hOpen).ready k hSync (by rw [hPc]; rfl)
      exact ⟨hRange, i, hSound.tables.syncDistinct.find_eq hEntry hNe, hEntry⟩
    split at hStep
    · rename_i hRange
      cases hStep
      refine (h.setCaller rfl fun hOpen => ?_).touch k
      obtain ⟨hLt, -⟩ := hFound hOpen
      omega
    · split at hStep
      · rename_i hNone
        cases hStep
        refine (h.setCaller rfl fun hOpen => ?_).touch k
        obtain ⟨-, i, hFind, -⟩ := hFound hOpen
        rw [hNone] at hFind
        cases hFind
      · rename_i i hFind
        cases hStep
        refine (h.setCaller rfl fun hOpen => ?_).touch k
        obtain ⟨-, j, hFind', hEntry⟩ := hFound hOpen
        rw [hFind] at hFind'
        cases hFind'
        apply (h.pairing hOpen).move
        · exact fun hk =>
            Or.inl ⟨rfl, ((h.pairing hOpen).answered k hk).2.given (by rw [hPc]; rfl)⟩
        · rintro - ⟨⟩
        · rintro j own ⟨⟩
          exact ⟨hEntry, by rw [hEntry]; rfl⟩
        · rintro j ok ⟨⟩
        · exact fun _ _ _ _ _ _ => rfl
  · cases hStep

theorem takeSem_paired {k : Nat} (h : Paired cfg s) (hStep : takeSem k s = some s') :
    Paired cfg s' := by
  unfold takeSem at hStep
  split at hStep
  · rename_i i j hPc
    split at hStep
    · rename_i hGiven
      cases hStep
      refine ⟨h.handed.move fun _ hResp => (by cases hResp), h.noPost, h.closed, fun hOpen => ?_⟩
      obtain ⟨hEntry, hOwn⟩ := (h.pairing hOpen).waiting k i (some j) hPc
      cases hOwn
      have hTaken : Pairing cfg s.uidOf (Function.update s.caller k (.taken i true)) s.sem
          s.syncRspTable s.rx.posted s.rpcRxQ s.woken := by
        apply (h.pairing hOpen).move
        · exact fun _ => Or.inr (Or.inl ⟨i, rfl⟩)
        · rintro - ⟨⟩
        · rintro j own ⟨⟩
        · rintro j ok ⟨⟩
          exact hEntry
        · intro _ _ _ _ _ hSem
          rw [hGiven] at hSem
          cases hSem
      apply hTaken.setSem
      · exact fun _ => Or.inr (Or.inl ⟨i, Function.update_self ..⟩)
      · rw [Function.update_self]
        rfl
    · cases hStep
  · cases hStep

theorem semTimeout_paired {k : Nat} (h : Paired cfg s) (hTurn : InTurn cfg s (.semTimeout k))
    (hStep : semTimeout k s = some s') : Paired cfg s' := by
  unfold semTimeout at hStep
  split at hStep
  · rename_i i own hPc
    split at hStep
    · cases hStep
    · obtain ⟨hSem, hPosted⟩ := hTurn
      cases hStep
      refine h.setCaller rfl fun hOpen => ?_
      apply (h.pairing hOpen).move
      · intro hk
        exact absurd (((h.pairing hOpen).answered k hk).2.given (by rw [hPc]; rfl)) hSem
      · rintro - ⟨⟩
      · rintro j own ⟨⟩
      · rintro j ok ⟨⟩
        exact ((h.pairing hOpen).waiting k i own hPc).1
      · exact fun _ resp hResp hUid _ _ => absurd hUid.symm (hPosted resp hResp)
  · cases hStep

theorem clearSync_paired {k : Nat} (h : Paired cfg s) (hStep : clearSync k s = some s') :
    Paired cfg s' := by
  unfold clearSync at hStep
  split at hStep
  · rename_i i ok hPc
    have hResult : (if ok then CallerPc.receiving else .freeing none).result = none := by
      cases ok <;> rfl
    cases hStep
    refine ⟨h.handed.move fun _ hResp => (by rw [hResult] at hResp; cases hResp), h.noPost,
      h.closed, fun hOpen => ?_⟩
    have hEntry := (h.pairing hOpen).taken k i ok hPc
    have hAnswered : k ∈ s.woken →
        ∀ v, Answered (if ok then .receiving else .freeing none) v := by
      intro hk v
      rcases ((h.pairing hOpen).answered k hk).2 with ⟨hExpects, -⟩ | ⟨j, hTaken⟩ | hReceiving
      · rw [hPc] at hExpects
        cases hExpects
      · rw [hPc] at hTaken
        cases hTaken
        exact Or.inr (Or.inr rfl)
      · rw [hPc] at hReceiving
        cases hReceiving
    have hPlace : (if ok then CallerPc.receiving else .freeing none).registered = false := by
      cases ok <;> rfl
    have hMoved : Pairing cfg s.uidOf
        (Function.update s.caller k (if ok then .receiving else .freeing none)) s.sem
        s.syncRspTable s.rx.posted s.rpcRxQ s.woken := by
      apply (h.pairing hOpen).move
      · exact fun hk => hAnswered hk _
      · intro _ hReady
        rw [CallerPc.registered_of_expects (CallerPc.expects_of_ready hReady)] at hPlace
        cases hPlace
      · intro j own hEq
        rw [hEq] at hPlace
        cases hPlace
      · intro j ok' hEq
        rw [hEq] at hPlace
        cases hPlace
      · intro _ _ _ _ hExpects
        rw [hPc] at hExpects
        cases hExpects
    have hDeleted := hMoved.setSem (k := k) (v := .deleted)
      (fun hk => by rw [Function.update_self]; exact hAnswered hk _)
      (by rw [Function.update_self]; cases ok <;> rfl)
    rw [hEntry]
    apply hDeleted.setEntry
    intro j hj hEq
    rw [hEntry] at hEq
    have hOwner : some k = some j := congrArg Slot.item (Option.some.inj hEq)
    cases hOwner
    rw [Function.update_self, hPlace] at hj
    cases hj
  · cases hStep

theorem recvRx_paired {k : Nat} (h : Paired cfg s) (hTurn : InTurn cfg s (.recvRx k))
    (hStep : recvRx k s = some s') : Paired cfg s' := by
  unfold recvRx at hStep
  split at hStep
  · split at hStep
    · rename_i hOpen
      split at hStep
      · cases hStep
      · rename_i resp rest hQueue
        have hPairing := h.pairing hOpen
        rw [hQueue] at hPairing
        obtain ⟨hUid, hTaken⟩ := hPairing.take (hTurn hOpen)
        cases hStep
        refine ⟨h.handed.move fun r hr => ?_, h.noPost, h.closed, fun _ => hTaken⟩
        cases hr
        exact hUid
    · rename_i hClosed
      cases hStep
      exact h.setCaller rfl fun hOpen => absurd hOpen hClosed
  · cases hStep

theorem freeReq_paired {k : Nat} (h : Paired cfg s) (hStep : freeReq k s = some s') :
    Paired cfg s' := by
  unfold freeReq at hStep
  split at hStep
  · rename_i resp hPc
    cases hStep
    refine ⟨h.handed.move fun r hr => h.handed k r (by rw [hPc]; exact hr), h.noPost, h.closed,
      fun hOpen => (h.pairing hOpen).move_away ?_ rfl ?_⟩
    · exact (h.pairing hOpen).not_woken (by rw [hPc]; rfl)
    · intro _ _ _ _ hExpects
      rw [hPc] at hExpects
      cases hExpects
  · cases hStep

/-! ### The tx thread -/

theorem recvTx_paired (h : Paired cfg s) (hStep : recvTx s = some s') : Paired cfg s' := by
  unfold recvTx at hStep
  split at hStep
  · split at hStep
    · split at hStep
      · cases hStep
      · rename_i k rest hQueue
        have hNext : Paired cfg { s with tx := .composing k } := h.setTx (by simp)
        cases hStep
        exact ⟨hNext.handed, hNext.noPost, hNext.closed, hNext.pairing⟩
    · cases hStep
      exact h.setTx (by simp)
  · cases hStep

theorem composeReq_paired {ok : Bool} (h : Paired cfg s) (hStep : composeReq cfg ok s = some s') :
    Paired cfg s' := by
  unfold composeReq at hStep
  split at hStep
  · rename_i k hPc
    have hTx : ∀ tx : TxPc, (∀ j resp, tx ≠ .posting j resp) → Paired cfg { s.touch k with tx } :=
      fun tx hNoPost => (h.setTx hNoPost).touch k
    cases hStep
    cases ok with
    | false => exact hTx (.notifying k) (by simp)
    | true =>
      cases (cfg.app k).async with
      | false => exact hTx (.sending k) (by simp)
      | true => exact hTx (.starting k) (by simp)
  · cases hStep

theorem startTimer_paired {ok : Bool} (h : Paired cfg s) (hStep : startTimer ok s = some s') :
    Paired cfg s' := by
  unfold startTimer at hStep
  split at hStep
  · rename_i k hPc
    split at hStep
    · have hNext : Paired cfg { s with tx := .registering k } := h.setTx (by simp)
      cases hStep
      exact ⟨hNext.handed, hNext.noPost, hNext.closed, hNext.pairing⟩
    · cases hStep
      exact (h.setTx (by simp)).touch k
  · cases hStep

theorem setAsyncRespCallback_paired (h : Paired cfg s)
    (hStep : setAsyncRespCallback cfg s = some s') : Paired cfg s' := by
  unfold setAsyncRespCallback at hStep
  split at hStep
  · rename_i k hPc
    split at hStep
    · cases hStep
      exact (h.setTx (by simp)).touch k
    · split at hStep
      · cases hStep
        exact (h.setTx (by simp)).touch k
      · have hNext : Paired cfg { s with tx := .sending k } := h.setTx (by simp)
        cases hStep
        exact ⟨hNext.handed, hNext.noPost, hNext.closed, hNext.pairing⟩
  · cases hStep

theorem serialSend_paired {ok : Bool} (h : Paired cfg s) (hStep : serialSend ok s = some s') :
    Paired cfg s' := by
  unfold serialSend at hStep
  split at hStep
  · rename_i k hPc
    have hClean : Paired cfg { s with tx := .cleaning k } := h.setTx (by simp)
    have hFail : Paired cfg { s with tx := .notifying k } := h.setTx (by simp)
    cases hStep
    cases ok with
    | true => exact hClean
    | false => exact hFail
  · cases hStep

theorem txCleanup_paired (h : Paired cfg s) (hStep : txCleanup s = some s') : Paired cfg s' := by
  unfold txCleanup at hStep
  split at hStep
  · rename_i k hPc
    cases hStep
    exact (h.setTx (by simp)).touch k
  · cases hStep

theorem txPostSync_paired (h : Paired cfg s) (hStep : txPostSync s = some s') :
    Paired cfg s' := by
  unfold txPostSync at hStep
  split at hStep
  · rename_i k resp hPc
    exact absurd hPc (h.noPost k resp)
  · cases hStep

theorem failCleanup_paired (h : Paired cfg s) (hStep : failCleanup cfg s = some s') :
    Paired cfg s' := by
  unfold failCleanup at hStep
  split at hStep
  · rename_i k hPc
    have hScan : Paired cfg { s with tx := .scanning k } := h.setTx (by simp)
    have hIdle : Paired cfg { s with tx := .idle } := h.setTx (by simp)
    cases hStep
    cases (cfg.app k).async with
    | true => exact hScan.touch k
    | false => exact hIdle.touch k
  · cases hStep

theorem scanAsync_paired (h : Paired cfg s) (hStep : scanAsync s = some s') : Paired cfg s' := by
  unfold scanAsync at hStep
  split at hStep
  · rename_i k hPc
    have hNext : Paired cfg { s with tx := .idle } := h.setTx (by simp)
    split at hStep
    · cases hStep
      exact hNext.touch k
    · cases hStep
      exact ⟨hNext.handed, hNext.noPost, hNext.closed, hNext.pairing⟩
  · cases hStep

/-- No failed response gets into `rpc_rx_q` while there is one. -/
theorem notifyFail_paired {callocOk : Bool} (h : Paired cfg s)
    (hTurn : InTurn cfg s (.notifyFail callocOk)) (hStep : notifyFail cfg callocOk s = some s') :
    Paired cfg s' := by
  unfold notifyFail at hStep
  split at hStep
  · rename_i k hPc
    have hNext : Paired cfg { s with tx := .failCleaning k } := h.setTx (by simp)
    split at hStep
    · cases hStep
      exact hNext.touch k
    · rename_i hOk
      split at hStep
      · cases hStep
        exact ⟨hNext.handed, hNext.noPost, hNext.closed, hNext.pairing⟩
      · rename_i hSync
        split at hStep
        · cases hStep
          exact hNext.touch k
        · rename_i hOpen
          exact absurd
            (hTurn (by simpa using hOk) (by simpa using hOpen) k (by rw [hPc]; rfl)) hSync
  · cases hStep

/-! ### The rx thread -/

theorem recvResp_paired {resp : Resp} (h : Paired cfg s) (hStep : recvResp resp s = some s') :
    Paired cfg s' := by
  unfold recvResp at hStep
  split at hStep
  · rename_i hPc
    cases hStep
    exact h.setRx (by rw [hPc]; rfl) rfl
  · cases hStep

theorem isAsyncAvailable_paired (h : Paired cfg s) (hStep : isAsyncAvailable s = some s') :
    Paired cfg s' := by
  unfold isAsyncAvailable at hStep
  split at hStep
  · rename_i resp hPc
    split at hStep
    · cases hStep
      exact h.setRx (by rw [hPc]; rfl) rfl
    · cases hStep
      exact h.setRx (by rw [hPc]; rfl) rfl
  · cases hStep

theorem callAsync_paired (h : Paired cfg s) (hStep : callAsync s = some s') : Paired cfg s' := by
  unfold callAsync at hStep
  split at hStep
  · rename_i resp hPc
    split at hStep
    · cases hStep
      exact h.setRx (by rw [hPc]; rfl) rfl
    · rename_i i hFind
      split at hStep
      · cases hStep
        exact ⟨h.handed, h.noPost, h.closed, h.pairing⟩
      · have hNext : Paired cfg { s with rx := .clearing i } := h.setRx (by rw [hPc]; rfl) rfl
        cases hStep
        exact ⟨hNext.handed, hNext.noPost, hNext.closed, hNext.pairing⟩
  · cases hStep

theorem rxClearAsync_paired (h : Paired cfg s) (hStep : rxClearAsync s = some s') :
    Paired cfg s' := by
  unfold rxClearAsync at hStep
  split at hStep
  · rename_i i hPc
    cases hStep
    exact (h.clearAsync i).setRx (by rw [clearAsync_rx, hPc]; rfl) rfl
  · cases hStep

/-- A response that a caller waits for. -/
theorem queueRx_paired (hSound : Sound cfg s) (h : Paired cfg s) (hTurn : InTurn cfg s .queueRx)
    (hStep : queueRx s = some s') : Paired cfg s' := by
  unfold queueRx at hStep
  split at hStep
  · rename_i resp hPc
    split at hStep
    · cases hStep
      exact h.setRx (by rw [hPc]; rfl) rfl
    · split at hStep
      · cases hStep
        refine ⟨h.handed, h.noPost, h.closed, fun hOpen => ?_⟩
        obtain ⟨hRange, hNe, i, hFind, k, hItem, hExpects, hSem⟩ :=
          hTurn hOpen resp (by rw [hPc]; rfl)
        obtain ⟨j, -, hSync, hUid, hEntry⟩ := hSound.tables.find_sync hNe hFind
        rw [hEntry] at hItem
        cases hItem
        have hPairing := h.pairing hOpen
        rw [hPc] at hPairing
        exact hPairing.post hRange hSync hUid hExpects hSem
      · cases hStep
  · cases hStep

/-- The semaphore that is given is that of the caller who waits for the response. -/
theorem rxPostSync_paired (hSound : Sound cfg s) (h : Paired cfg s)
    (hStep : rxPostSync s = some s') : Paired cfg s' := by
  unfold rxPostSync at hStep
  split at hStep
  · rename_i resp hPc
    obtain ⟨sem, woken, fault, hFrame⟩ := postSyncRespSem_frame resp s
    have hGive : s.rpcRxQOpen = true → Pairing cfg s.uidOf s.caller sem s.syncRspTable none
        s.rpcRxQ woken := by
      intro hOpen
      have hPosted : s.rx.posted = some resp := by rw [hPc]; rfl
      obtain ⟨hRange, k, hSync, hUid, hExpects, hSem⟩ := (h.pairing hOpen).posted resp hPosted
      obtain ⟨i, hEntry⟩ := (h.pairing hOpen).entry hSync hExpects
      have hNe : s.uidOf k ≠ 0 := by
        refine hSound.tables.uid k (hSound.queued.lt_next ?_)
        intro hUnborn
        rw [hUnborn] at hExpects
        cases hExpects
      have hFind := hSound.tables.syncDistinct.find_eq hEntry hNe
      rw [show (syncEntry s.uidOf k).uid = resp.uid from hUid] at hFind
      have hGiven := (h.pairing hOpen).give hPosted hSync hUid hExpects hSem
      have hOut : s.postSyncRespSem resp = { s with
          sem := Function.update s.sem k (.live true), woken := s.woken ++ [k] } := by
        unfold postSyncRespSem
        simp [hFind, hRange, hEntry, syncEntry, hSem]
      rw [hFrame] at hOut
      rw [show sem = _ from congrArg Core.sem hOut, show woken = _ from congrArg Core.woken hOut]
      exact hGiven
    rw [hFrame] at hStep
    cases hStep
    exact ⟨h.handed, h.noPost, h.closed, hGive⟩
  · cases hStep

/-! ### Timers and de-initialization -/

theorem timerClear_paired {k : Nat} (h : Paired cfg s) (hStep : timerClear k s = some s') :
    Paired cfg s' := by
  unfold timerClear at hStep
  split at hStep
  · split at hStep
    · cases hStep
      exact ⟨h.handed, h.noPost, h.closed, h.pairing⟩
    · rename_i i hFind
      have hCleared := h.clearAsync i
      cases hStep
      exact ⟨hCleared.handed, hCleared.noPost, hCleared.closed, hCleared.pairing⟩
  · cases hStep

theorem drainRx_paired (h : Paired cfg s) (hStep : drainRx s = some s') : Paired cfg s' := by
  unfold drainRx at hStep
  split at hStep
  · cases hStep
    exact ⟨h.handed, h.noPost, fun _ => rfl, fun hOpen => (by cases hOpen)⟩
  · cases hStep

theorem cleanupTables_paired (h : Paired cfg s) (hStep : cleanupTables s = some s') :
    Paired cfg s' := by
  unfold cleanupTables at hStep
  split at hStep
  · rename_i hPc
    have hClosed : s.rpcRxQOpen = false := h.closed (by rw [hPc]; decide)
    cases hStep
    exact ⟨h.handed, h.noPost, fun _ => hClosed, fun hOpen => absurd hOpen (by simp [hClosed])⟩
  · cases hStep

theorem cancelThreads_paired (h : Paired cfg s) (hStep : cancelThreads s = some s') :
    Paired cfg s' := by
  unfold cancelThreads at hStep
  split at hStep
  · rename_i hPc
    have hClosed : s.rpcRxQOpen = false := h.closed (by rw [hPc]; decide)
    cases hStep
    exact ⟨h.handed, fun _ _ hEq => (by cases hEq), fun _ => hClosed,
      fun hOpen => absurd hOpen (by simp [hClosed])⟩
  · cases hStep

theorem init_paired (cfg : Config) : Paired cfg (init cfg) := by
  refine ⟨fun k resp hResp => (by cases hResp), fun _ _ hEq => (by cases hEq),
    fun hPc => absurd rfl hPc, fun _ => ⟨rfl, List.nodup_nil, ?_, ?_, ?_, ?_, ?_⟩⟩
  · exact fun k hk => absurd hk List.not_mem_nil
  · exact fun k _ hReady => by cases hReady
  · exact fun k i own hk => by cases hk
  · exact fun k i ok hk => by cases hk
  · exact fun resp hResp => by cases hResp

/-- Every step in turn keeps the pairing. -/
theorem step_paired {a : Action} (hSound : Sound cfg s) (h : Paired cfg s)
    (hTurn : InTurn cfg s a) (hStep : step cfg s a = some s') : Paired cfg s' := by
  unfold step at hStep
  split at hStep
  · cases hStep
  · cases a with
    | sendReq => exact sendReq_paired hSound h hStep
    | setSyncRespSem k createOk => exact setSyncRespSem_paired hSound h hStep
    | queueTx k ok => exact queueTx_paired h hTurn hStep
    | failReq k => exact failReq_paired h hStep
    | rpcTxInd k => exact rpcTxInd_paired h hStep
    | readRspCb k => exact readRspCb_paired h hStep
    | lookupSem k => exact lookupSem_paired hSound h hStep
    | takeSem k => exact takeSem_paired h hStep
    | semTimeout k => exact semTimeout_paired h hTurn hStep
    | clearSync k => exact clearSync_paired h hStep
    | recvRx k => exact recvRx_paired h hTurn hStep
    | freeReq k => exact freeReq_paired h hStep
    | recvTx => exact recvTx_paired h hStep
    | composeReq ok => exact composeReq_paired h hStep
    | startTimer ok => exact startTimer_paired h hStep
    | setAsyncRespCallback => exact setAsyncRespCallback_paired h hStep
    | notifyFail callocOk => exact notifyFail_paired h hTurn hStep
    | isAsyncAvailable => exact isAsyncAvailable_paired h hStep
    | callAsync => exact callAsync_paired h hStep
    | rxClearAsync => exact rxClearAsync_paired h hStep
    | queueRx => exact queueRx_paired hSound h hTurn hStep
    | rxPostSync => exact rxPostSync_paired hSound h hStep
    | drainRx => exact drainRx_paired h hStep
    | cleanupTables => exact cleanupTables_paired h hStep
    | cancelThreads => exact cancelThreads_paired h hStep
    | serialSend ok => exact serialSend_paired h hStep
    | txCleanup => exact txCleanup_paired h hStep
    | txPostSync => exact txPostSync_paired h hStep
    | failCleanup => exact failCleanup_paired h hStep
    | scanAsync => exact scanAsync_paired h hStep
    | recvResp resp => exact recvResp_paired h hStep
    | timerClear k => exact timerClear_paired h hStep
    | txTakeSem =>
      simp only [txTakeSem, Option.ite_none_right_eq_some] at hStep
      obtain ⟨-, hEq⟩ := hStep
      have hNext : Paired cfg { s with tx := .dequeuing } := h.setTx (by simp)
      cases hEq
      exact ⟨hNext.handed, hNext.noPost, hNext.closed, hNext.pairing⟩
    | drainTx =>
      simp only [drainTx, Option.ite_none_right_eq_some] at hStep
      obtain ⟨hPc, hEq⟩ := hStep
      have hClosed := h.closed (by rw [hPc]; decide)
      cases hEq
      exact ⟨h.handed, h.noPost, fun _ => hClosed, h.pairing⟩
    | expire k | timerRead k callocOk | timerCall k =>
      simp only [expire, timerRead, timerCall, Option.ite_none_right_eq_some] at hStep
      obtain ⟨-, hEq⟩ := hStep
      cases hEq
      exact ⟨h.handed, h.noPost, h.closed, h.pairing⟩

theorem InTurn.freshUid {a : Action} (h : InTurn cfg s a) : FreshUid cfg s a := by
  cases a with
  | sendReq => exact h
  | _ => trivial

/-- What `rpc_wait_and_parse_sync_resp` returns is `NULL` or has the uid of the request. -/
def OwnResponse (s : Core) : Prop :=
  ∀ k resp, s.caller k = .finished (some resp) → resp.uid = s.uidOf k

/-- In a run in turn every caller is handed the response to its own request. -/
theorem own_response (cfg : Config) {s : Core}
    (hRun : Reaches (step cfg) (InTurn cfg) (init cfg) s) : OwnResponse s := by
  have hBoth : Sound cfg s ∧ Paired cfg s := by
    apply hRun.invariant ⟨init_sound cfg, init_paired cfg⟩
    rintro t a t' ⟨hSound, hPaired⟩ hTurn hStep
    exact ⟨step_sound hSound hTurn.freshUid hStep, step_paired hSound hPaired hTurn hStep⟩
  intro k resp hPc
  exact hBoth.2.handed k resp (by rw [hPc]; rfl)

def twoCallers : Config := { maxSync := 5, maxAsync := 5, app := fun _ => ⟨257, false⟩ }

/-- Request `k` is sent and waits for its semaphore. -/
def sendSync (k : Nat) : List Action :=
  [.sendReq, .setSyncRespSem k true, .queueTx k true, .rpcTxInd k, .txTakeSem, .recvTx,
    .composeReq true, .serialSend true, .txCleanup, .readRspCb k, .lookupSem k]

/-- A response is received and its semaphore given. -/
def receiveSync (resp : Resp) : List Action :=
  [.recvResp resp, .isAsyncAvailable, .queueRx, .rxPostSync]

def finishSync (k : Nat) : List Action := [.takeSem k, .clearSync k, .recvRx k, .freeReq k]

/-- Two callers, whose responses arrive in the other order. -/
def crossing : List Action :=
  sendSync 0 ++ sendSync 1 ++ receiveSync ⟨513, 2⟩ ++ receiveSync ⟨513, 1⟩ ++
    finishSync 1 ++ finishSync 0

theorem own_response_crossing :
    ∃ s, runGuarded (step twoCallers) (InTurn twoCallers) (init twoCallers) crossing = some s ∧
      s.caller 0 = .finished (some ⟨513, 1⟩) ∧ s.caller 1 = .finished (some ⟨513, 2⟩) ∧
      OwnResponse s := by
  have hRun : (runGuarded (step twoCallers) (InTurn twoCallers) (init twoCallers) crossing).map
      (fun s => (s.caller 0, s.caller 1)) =
      some (.finished (some ⟨513, 1⟩), .finished (some ⟨513, 2⟩)) := by decide +kernel
  obtain ⟨s, hs, hPcs⟩ := Option.map_eq_some_iff.mp hRun
  obtain ⟨h0, h1⟩ := Prod.mk.inj hPcs
  exact ⟨s, hs, h0, h1, own_response twoCallers (.of_run hs)⟩

/-- The first caller gives up, its response comes late, and the second caller takes it. -/
def lateResponse : List Action :=
  sendSync 0 ++ ([.semTimeout 0, .clearSync 0, .freeReq 0] : List Action) ++ sendSync 1 ++
    receiveSync ⟨513, 1⟩ ++ receiveSync ⟨513, 2⟩ ++ finishSync 1

theorem not_own_response :
    ¬ ∀ s, Reaches (step twoCallers) anyStep (init twoCallers) s → OwnResponse s := by
  intro h
  have hRun : (run (step twoCallers) (init twoCallers) lateResponse).map
      (fun s => (s.caller 1, s.uidOf 1)) = some (.finished (some ⟨513, 1⟩), 2) := by
    decide +kernel
  obtain ⟨s, hs, hOut⟩ := Option.map_eq_some_iff.mp hRun
  obtain ⟨hPc, hUid⟩ := Prod.mk.inj hOut
  have hOwn : 1 = s.uidOf 1 := h s (.of_plain_run hs) 1 ⟨513, 1⟩ hPc
  rw [hUid] at hOwn
  cases hOwn

end Core

end EspHosted.Rpc
