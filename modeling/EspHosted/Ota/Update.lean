import EspHosted.Lib.Machine

/-!
# Firmware update of the slave

The host updates the slave with four requests: begin, write, end and activate. The handlers keep
`ota_status`, `first_ota_write`, `handle` and `update_partition`; what the update functions of
the flash return is arbitrary. The first chunk is checked (`H_OTA_CHECK_IMAGE_VALIDITY`).

A `Session` is what the requests so far and their answers say: whether the last begin and every
write since it succeeded, whether the first chunk passed the checks, whether the update was ended.
It is not read by the handlers. Every call of the flash functions and every activation that is
reported is recorded with the session at that moment.

* `callsSafe_step_iff`: a step makes an unsafe call exactly when its request is out of order: the
  handlers do not refuse such a request;
* `ota_safe`: in a run without such requests every call is safe;
* `completed_status`: then an update that was completed can be activated.
-/

namespace EspHosted.Ota

open Machine

/-! ## Model -/

/-- `esp_err_t`. -/
abbrev EspErr := Int

/-- `ESP_OK` and `SUCCESS`. -/
def success : EspErr := 0

/-- `ESP_ERR_INVALID_SIZE`. -/
def espErrInvalidSize : EspErr := 0x104

abbrev Partition := Nat

/-- `OTA_IMAGE_HEADER_SIZE`: image header, segment header and application description. -/
def otaImageHeaderSize : Nat := 24 + 8 + 256

inductive OtaStatus
  | notStarted
  | inProgress
  | failed
  | completed
  | activated
  deriving DecidableEq

/-- What the requests and their answers say. `begun`: the last begin succeeded; `firstPending`:
the last begin that succeeded has had no chunk; `checked`: the first chunk since the last begin
passed the checks; `writesOk`: every write since it succeeded; `ended`: so did its end.
`openHandle` is open, `partition` is that of the last begin that succeeded. -/
structure Session where
  begun : Bool
  firstPending : Bool
  checked : Bool
  writesOk : Bool
  ended : Bool
  openHandle : Option Nat
  partition : Option Partition
  deriving DecidableEq

/-- A call of the flash functions, or an activation that is reported as `SUCCESS`. -/
inductive Call
  | otaWrite (handle : Nat)
  | otaEnd (handle : Nat)
  | setBootPartition (updatePartition : Option Partition)
  | reportActivated (updatePartition : Option Partition)
  deriving DecidableEq

structure State where
  otaStatus : OtaStatus
  firstOtaWrite : Bool
  handle : Nat
  updatePartition : Option Partition
  fault : Bool
  session : Session
  calls : List (Call × Session)

def noSession : Session :=
  { begun := false, firstPending := false, checked := false, writesOk := true, ended := false,
    openHandle := none, partition := none }

def boot : State :=
  { otaStatus := .notStarted, firstOtaWrite := false, handle := 0, updatePartition := none,
    fault := false, session := noSession, calls := [] }

def State.call (s : State) (c : Call) : State := { s with calls := s.calls ++ [(c, s.session)] }

/-- The answer is `none` when the handler cannot allocate it. `next` is what
`esp_ota_get_next_update_partition` returns, `ret` and `newHandle` are of `esp_ota_begin`. -/
def reqOtaBeginHandler (s : State) (callocOk : Bool) (next : Option Partition) (ret : EspErr)
    (newHandle : Nat) : State × Option EspErr :=
  if callocOk then
    let s := { s with updatePartition := next }
    match next with
    | none => (s, some (-1))
    | some _ =>
      if ret ≠ success then (s, some ret)
      else
        ({ s with handle := newHandle, otaStatus := .inProgress, firstOtaWrite := true },
          some success)
  else (s, none)

/-- The checks of the first chunk: too small, or what `esp_ota_check_image_validity` returns. It
is passed the type of `update_partition`, which must not be `NULL`. -/
def checkFirst (s : State) (data : List UInt8) (validity : EspErr) : State × EspErr :=
  if s.firstOtaWrite then
    let s := { s with firstOtaWrite := false }
    if data.length < otaImageHeaderSize then (s, espErrInvalidSize)
    else
      match s.updatePartition with
      | none => ({ s with fault := true }, espErrInvalidSize)
      | some _ => (s, validity)
  else (s, success)

def reqOtaWriteHandler (s : State) (callocOk : Bool) (data : List UInt8)
    (validity ret : EspErr) : State × Option EspErr :=
  if callocOk then
    let checked := checkFirst s data validity
    if checked.2 ≠ success then (checked.1, some checked.2)
    else (checked.1.call (.otaWrite checked.1.handle), some ret)
  else (s, none)

def reqOtaEndHandler (s : State) (callocOk : Bool) (ret : EspErr) : State × Option EspErr :=
  if callocOk then
    let s := s.call (.otaEnd s.handle)
    if ret ≠ success then ({ s with otaStatus := .failed }, some ret)
    else ({ s with otaStatus := .completed }, some success)
  else (s, none)

/-- In every state but `OTA_COMPLETED` the answer is `ret`, which is still `ESP_OK`. -/
def reqOtaActivateHandler (s : State) (callocOk : Bool) (setBoot : EspErr)
    (timerCreated timerStarted : Bool) : State × Option EspErr :=
  if callocOk then
    match s.otaStatus with
    | .completed =>
      let s := s.call (.setBootPartition s.updatePartition)
      if setBoot ≠ success then (s, some setBoot)
      else
        let s := { s with otaStatus := .activated }
        if !timerCreated then (s, some (-1))
        else if !timerStarted then (s, some (-2))
        else (s, some success)
    | _ => (s, some success)
  else (s, none)

/-! ### The session -/

/-- A begin was answered. -/
def Session.answerBegin (σ : Session) (resp : Option EspErr) (next : Option Partition)
    (newHandle : Nat) : Session :=
  if resp = some success then
    { begun := true, firstPending := true, checked := false, writesOk := true, ended := false,
      openHandle := some newHandle, partition := next }
  else { σ with begun := false, checked := false, writesOk := true, ended := false }

/-- A chunk has arrived; `passed` says whether it passes the checks of a first chunk. -/
def Session.chunk (σ : Session) (passed : Bool) : Session :=
  if σ.firstPending then { σ with firstPending := false, checked := passed } else σ

def Session.answerWrite (σ : Session) (resp : Option EspErr) : Session :=
  { σ with writesOk := σ.writesOk && decide (resp = some success) }

/-- An end that was called closes the update, whatever it returns. -/
def Session.answerEnd (σ : Session) (resp : Option EspErr) : Session :=
  { σ with
    ended := σ.ended || (σ.openHandle.isSome && decide (resp = some success))
    openHandle := if resp = none then σ.openHandle else none }

/-- The last begin, every write since it and its end succeeded, on this partition. -/
def Session.Completed (σ : Session) (updatePartition : Option Partition) : Prop :=
  σ.begun = true ∧ σ.writesOk = true ∧ σ.ended = true ∧ updatePartition = σ.partition

instance (σ : Session) (p : Option Partition) : Decidable (σ.Completed p) :=
  inferInstanceAs (Decidable (_ ∧ _))

/-- The chunk passes the checks of a first chunk. -/
def Passes (s : State) (data : List UInt8) (validity : EspErr) : Prop :=
  otaImageHeaderSize ≤ data.length ∧ s.updatePartition.isSome = true ∧ validity = success

instance (s : State) (data : List UInt8) (validity : EspErr) :
    Decidable (Passes s data validity) := inferInstanceAs (Decidable (_ ∧ _))

inductive Action
  | otaBegin (callocOk : Bool) (next : Option Partition) (ret : EspErr) (newHandle : Nat)
  | otaWrite (callocOk : Bool) (data : List UInt8) (validity ret : EspErr)
  | otaEnd (callocOk : Bool) (ret : EspErr)
  | otaActivate (callocOk : Bool) (setBoot : EspErr) (timerCreated timerStarted : Bool)
  | restart
  deriving DecidableEq

/-- A request is handled, or the slave restarts, as it does after an activation. -/
def step (s : State) (a : Action) : Option State :=
  if s.fault then none
  else
    match a with
    | .otaBegin callocOk next ret newHandle =>
      let r := reqOtaBeginHandler s callocOk next ret newHandle
      some { r.1 with session := r.1.session.answerBegin r.2 next newHandle }
    | .otaWrite callocOk data validity ret =>
      let s := if callocOk then
        { s with session := s.session.chunk (decide (Passes s data validity)) } else s
      let r := reqOtaWriteHandler s callocOk data validity ret
      some { r.1 with session := r.1.session.answerWrite r.2 }
    | .otaEnd callocOk ret =>
      let r := reqOtaEndHandler s callocOk ret
      some { r.1 with session := r.1.session.answerEnd r.2 }
    | .otaActivate callocOk setBoot timerCreated timerStarted =>
      let r := reqOtaActivateHandler s callocOk setBoot timerCreated timerStarted
      some (if r.2 = some success then r.1.call (.reportActivated r.1.updatePartition) else r.1)
    | .restart => some { boot with calls := s.calls }

/-! ## What is kept -/

/-- A chunk is written to an open update whose first chunk was checked, an open update is ended,
and a partition is activated only after a complete update of it. -/
def Call.Safe (σ : Session) : Call → Prop
  | .otaWrite handle => σ.openHandle = some handle ∧ σ.checked = true
  | .otaEnd handle => σ.openHandle = some handle
  | .setBootPartition p | .reportActivated p => σ.Completed p

def CallsSafe (s : State) : Prop := ∀ e ∈ s.calls, e.1.Safe e.2

/-- A write comes while an update is open, and is the first since its begin or comes after a first
chunk that passed the checks; an end comes while an update is open; an activation comes after a
complete update. A request whose answer cannot be allocated does nothing. -/
def InOrder (s : State) : Action → Prop
  | .otaWrite callocOk data validity _ => callocOk = true →
      if s.session.firstPending then Passes s data validity → s.session.openHandle.isSome = true
      else s.session.openHandle.isSome = true ∧ s.session.checked = true
  | .otaEnd callocOk _ => callocOk = true → s.session.openHandle.isSome = true
  | .otaActivate callocOk _ _ _ => callocOk = true → s.session.Completed s.session.partition
  | _ => True

instance (s : State) (a : Action) : Decidable (InOrder s a) := by
  apply Action.casesOn (motive := fun a => Decidable (InOrder s a)) a <;> intros <;>
    unfold InOrder <;> infer_instance

/-- What the handlers keep agrees with the session. -/
structure Linked (s : State) : Prop where
  first : s.firstOtaWrite = s.session.firstPending
  handle : ∀ h, s.session.openHandle = some h → h = s.handle
  partition : s.session.begun = true → s.updatePartition = s.session.partition

theorem callsSafe_call {s : State} {c : Call} :
    CallsSafe (s.call c) ↔ CallsSafe s ∧ c.Safe s.session := by
  constructor
  · intro h
    exact ⟨fun e hMem => h e (List.mem_append_left _ hMem),
      h (c, s.session) (List.mem_append_right _ (List.mem_singleton_self _))⟩
  · rintro ⟨hOld, hNew⟩ e hMem
    rcases List.mem_append.mp hMem with hMem | hMem
    · exact hOld e hMem
    · cases List.mem_singleton.mp hMem
      exact hNew

section Steps

variable {s s' : State}

/-- The handle that is passed is the open one, if there is one. -/
theorem Linked.open_iff (h : Linked s) :
    s.session.openHandle = some s.handle ↔ s.session.openHandle.isSome = true := by
  constructor
  · intro hOpen
    rw [hOpen]
    rfl
  · intro hSome
    obtain ⟨handle, hOpen⟩ := Option.isSome_iff_exists.mp hSome
    rw [hOpen, h.handle handle hOpen]

/-- The partition that is named is the one of the session. -/
theorem Linked.completed_iff (h : Linked s) :
    s.session.Completed s.updatePartition ↔ s.session.Completed s.session.partition := by
  constructor
  · rintro ⟨hBegun, hWrites, hEnded, -⟩
    exact ⟨hBegun, hWrites, hEnded, rfl⟩
  · rintro ⟨hBegun, hWrites, hEnded, -⟩
    exact ⟨hBegun, hWrites, hEnded, h.partition hBegun⟩

/-! ### Begin -/

theorem Linked.otaBegin {callocOk : Bool} {next : Option Partition} {ret : EspErr}
    {newHandle : Nat} (h : Linked s)
    (hStep : step s (.otaBegin callocOk next ret newHandle) = some s') : Linked s' := by
  simp only [step, reqOtaBeginHandler] at hStep
  split at hStep
  · cases hStep
  · split at hStep
    · split at hStep
      · cases hStep
        exact ⟨h.first, h.handle, nofun⟩
      · split at hStep
        · rename_i hFail
          cases hStep
          have hResp : (some ret = some success) = False := by simpa using hFail
          simp only [Session.answerBegin, hResp, if_false]
          exact ⟨h.first, h.handle, nofun⟩
        · cases hStep
          simp only [Session.answerBegin, if_true]
          refine ⟨rfl, ?_, fun _ => rfl⟩
          intro handle hOpen
          exact (Option.some.inj hOpen).symm
    · cases hStep
      exact ⟨h.first, h.handle, nofun⟩

theorem callsSafe_otaBegin {callocOk : Bool} {next : Option Partition} {ret : EspErr}
    {newHandle : Nat} (hStep : step s (.otaBegin callocOk next ret newHandle) = some s') :
    s'.calls = s.calls := by
  simp only [step, reqOtaBeginHandler] at hStep
  (repeat' split at hStep) <;> cases hStep <;> rfl

/-! ### Write -/

/-- What a chunk changes: the flag of the first chunk on both sides, and `writesOk`. -/
structure WriteFrame (s s' : State) : Prop where
  otaStatus : s'.otaStatus = s.otaStatus
  handle : s'.handle = s.handle
  updatePartition : s'.updatePartition = s.updatePartition
  begun : s'.session.begun = s.session.begun
  ended : s'.session.ended = s.session.ended
  openHandle : s'.session.openHandle = s.session.openHandle
  partition : s'.session.partition = s.session.partition
  first : s.firstOtaWrite = s.session.firstPending → s'.firstOtaWrite = s'.session.firstPending

/-- The answer changes only `writesOk`. -/
theorem WriteFrame.answer (h : WriteFrame s s') (resp : Option EspErr) :
    WriteFrame s { s' with session := s'.session.answerWrite resp } :=
  ⟨h.otaStatus, h.handle, h.updatePartition, h.begun, h.ended, h.openHandle, h.partition, h.first⟩

theorem WriteFrame.call (h : WriteFrame s s') (c : Call) : WriteFrame s (s'.call c) :=
  ⟨h.otaStatus, h.handle, h.updatePartition, h.begun, h.ended, h.openHandle, h.partition, h.first⟩

/-- The chunk as the session and `checkFirst` see it. -/
theorem checkFirst_frame {data : List UInt8} {validity : EspErr} {passed : Bool} :
    WriteFrame s (checkFirst { s with session := s.session.chunk passed } data validity).1 := by
  unfold checkFirst Session.chunk
  cases hPending : s.session.firstPending with
  | true =>
    simp only [if_true]
    split
    · rename_i hFirst
      (repeat' split) <;> exact ⟨rfl, rfl, rfl, rfl, rfl, rfl, rfl, fun _ => rfl⟩
    · rename_i hFirst
      refine ⟨rfl, rfl, rfl, rfl, rfl, rfl, rfl, fun hEq => ?_⟩
      rw [hPending] at hEq
      exact absurd hEq hFirst
  | false =>
    simp only [Bool.false_eq_true, if_false]
    split
    · rename_i hFirst
      (repeat' split) <;> exact ⟨rfl, rfl, rfl, rfl, rfl, rfl, rfl, fun _ => hPending.symm⟩
    · exact ⟨rfl, rfl, rfl, rfl, rfl, rfl, rfl, fun hEq => hEq⟩

theorem otaWrite_frame {callocOk : Bool} {data : List UInt8} {validity ret : EspErr}
    (hStep : step s (.otaWrite callocOk data validity ret) = some s') : WriteFrame s s' := by
  simp only [step, reqOtaWriteHandler] at hStep
  split at hStep
  · cases hStep
  · cases callocOk with
    | false =>
      cases hStep
      exact ⟨rfl, rfl, rfl, rfl, rfl, rfl, rfl, fun hEq => hEq⟩
    | true =>
      simp only [if_true] at hStep
      split at hStep
      · cases hStep
        exact checkFirst_frame.answer _
      · cases hStep
        exact (checkFirst_frame.call _).answer _

theorem Linked.otaWrite {callocOk : Bool} {data : List UInt8} {validity ret : EspErr}
    (h : Linked s) (hStep : step s (.otaWrite callocOk data validity ret) = some s') :
    Linked s' := by
  have hFrame := otaWrite_frame hStep
  refine ⟨hFrame.first h.first, ?_, ?_⟩
  · rw [hFrame.openHandle, hFrame.handle]
    exact h.handle
  · rw [hFrame.begun, hFrame.updatePartition, hFrame.partition]
    exact h.partition

theorem espErrInvalidSize_ne : espErrInvalidSize ≠ success := by
  decide

/-- The first chunk goes on when it passes the checks; no other chunk is checked. -/
theorem checkFirst_iff (s : State) (data : List UInt8) (validity : EspErr) :
    (checkFirst s data validity).2 = success ↔
      (s.firstOtaWrite = true → Passes s data validity) := by
  unfold checkFirst Passes
  split
  · rename_i hFirst
    dsimp only
    split
    · rename_i hShort
      refine iff_of_false espErrInvalidSize_ne fun h => ?_
      exact absurd (h hFirst).1 (Nat.not_le_of_lt hShort)
    · rename_i hLong
      split
      · rename_i hNone
        refine iff_of_false espErrInvalidSize_ne fun h => ?_
        have hSome := (h hFirst).2.1
        rw [show s.updatePartition = none from hNone] at hSome
        cases hSome
      · rename_i p hSome
        constructor
        · intro hOk _
          exact ⟨Nat.le_of_not_lt hLong, by rw [show s.updatePartition = some p from hSome]; rfl,
            hOk⟩
        · intro h
          exact (h hFirst).2.2
  · rename_i hFirst
    exact iff_of_true rfl fun h => absurd h hFirst

theorem checkFirst_same (s : State) (data : List UInt8) (validity : EspErr) :
    (checkFirst s data validity).1.calls = s.calls ∧
      (checkFirst s data validity).1.session = s.session ∧
      (checkFirst s data validity).1.handle = s.handle := by
  unfold checkFirst
  split
  · dsimp only
    (repeat' split) <;> exact ⟨rfl, rfl, rfl⟩
  · exact ⟨rfl, rfl, rfl⟩

/-- A chunk that reaches `esp_ota_write` finds the update open and the first chunk checked exactly
when the request is in order. -/
theorem callsSafe_otaWrite_iff {callocOk : Bool} {data : List UInt8} {validity ret : EspErr}
    (h : Linked s) (hSafe : CallsSafe s)
    (hStep : step s (.otaWrite callocOk data validity ret) = some s') :
    CallsSafe s' ↔ InOrder s (.otaWrite callocOk data validity ret) := by
  simp only [step] at hStep
  split at hStep
  · cases hStep
  · cases callocOk with
    | false =>
      cases hStep
      exact iff_of_true hSafe nofun
    | true =>
      simp only [if_true, reqOtaWriteHandler] at hStep
      have hCheck := checkFirst_iff
        { s with session := s.session.chunk (decide (Passes s data validity)) } data validity
      obtain ⟨hCalls, hSession, hHandle⟩ := checkFirst_same
        { s with session := s.session.chunk (decide (Passes s data validity)) } data validity
      generalize checkFirst { s with session := s.session.chunk (decide (Passes s data validity)) }
        data validity = r at hStep hCheck hCalls hSession hHandle
      have hPassed : r.2 = success ↔ (s.session.firstPending = true → Passes s data validity) := by
        rw [← h.first]
        exact hCheck
      have hOld : CallsSafe r.1 := by
        unfold CallsSafe
        rw [hCalls]
        exact hSafe
      have hOrder : InOrder s (.otaWrite true data validity ret) ↔
          if s.session.firstPending then Passes s data validity → s.session.openHandle.isSome = true
          else s.session.openHandle.isSome = true ∧ s.session.checked = true :=
        ⟨fun hIn => hIn rfl, fun hIn _ => hIn⟩
      rw [hOrder]
      split at hStep
      · rename_i hFail
        cases hStep
        rw [ne_eq, hPassed, Classical.not_imp] at hFail
        obtain ⟨hPending, hFails⟩ := hFail
        rw [if_pos hPending]
        exact iff_of_true hOld fun hPasses => absurd hPasses hFails
      · rename_i hGo
        rw [not_not, hPassed] at hGo
        cases hStep
        show CallsSafe (r.1.call _) ↔ _
        rw [callsSafe_call, and_iff_right hOld, hSession, hHandle]
        show (s.session.chunk _).openHandle = some s.handle ∧ _ ↔ _
        unfold Session.chunk
        by_cases hPending : s.session.firstPending = true
        · have hPasses := hGo hPending
          rw [if_pos hPending, if_pos hPending]
          simp only [hPasses, decide_true, and_true, forall_const]
          exact h.open_iff
        · rw [if_neg hPending, if_neg hPending]
          exact and_congr_left' h.open_iff

/-! ### End -/

theorem Linked.otaEnd {callocOk : Bool} {ret : EspErr} (h : Linked s)
    (hStep : step s (.otaEnd callocOk ret) = some s') : Linked s' := by
  simp only [step, reqOtaEndHandler] at hStep
  split at hStep
  · cases hStep
  · cases callocOk with
    | false =>
      cases hStep
      exact ⟨h.first, h.handle, h.partition⟩
    | true =>
      simp only [if_true] at hStep
      split at hStep <;> cases hStep <;> exact ⟨h.first, nofun, h.partition⟩

theorem callsSafe_otaEnd_iff {callocOk : Bool} {ret : EspErr} (h : Linked s)
    (hSafe : CallsSafe s) (hStep : step s (.otaEnd callocOk ret) = some s') :
    CallsSafe s' ↔ InOrder s (.otaEnd callocOk ret) := by
  simp only [step, reqOtaEndHandler] at hStep
  split at hStep
  · cases hStep
  · cases callocOk with
    | false =>
      cases hStep
      exact iff_of_true hSafe nofun
    | true =>
      have hOrder : CallsSafe (s.call (.otaEnd s.handle)) ↔ InOrder s (.otaEnd true ret) := by
        rw [callsSafe_call, and_iff_right hSafe]
        exact h.open_iff.trans ⟨fun hOpen _ => hOpen, fun hOpen => hOpen rfl⟩
      simp only [if_true] at hStep
      split at hStep <;> cases hStep <;> exact hOrder

/-! ### Activate -/

/-- The handler changes only `ota_status`, and calls for the partition that is named. -/
theorem otaActivate_spec {callocOk : Bool} {setBoot : EspErr} {timerCreated timerStarted : Bool}
    (hStep : step s (.otaActivate callocOk setBoot timerCreated timerStarted) = some s') :
    (callocOk = false ∧ s' = s) ∨ callocOk = true ∧ s'.session = s.session ∧
      s'.firstOtaWrite = s.firstOtaWrite ∧ s'.handle = s.handle ∧
      s'.updatePartition = s.updatePartition ∧
      (s'.otaStatus = s.otaStatus ∨ s'.otaStatus = .activated) ∧
      ∃ new, s'.calls = s.calls ++ new ∧ new ≠ [] ∧ ∀ e ∈ new, e.2 = s.session ∧
        (e.1 = .setBootPartition s.updatePartition ∨
          e.1 = .reportActivated s.updatePartition) := by
  simp only [step, reqOtaActivateHandler] at hStep
  split at hStep
  · cases hStep
  · cases callocOk with
    | false =>
      cases hStep
      exact Or.inl ⟨rfl, rfl⟩
    | true =>
      refine Or.inr ⟨rfl, ?_⟩
      simp only [if_true] at hStep
      split at hStep
      · split at hStep
        · rename_i hFail
          have hResp : (some setBoot = some success) = False := by simpa using hFail
          simp only [hResp, if_false] at hStep
          cases hStep
          exact ⟨rfl, rfl, rfl, rfl, Or.inl rfl,
            [(.setBootPartition s.updatePartition, s.session)], rfl, by simp, by simp⟩
        · split at hStep
          · cases hStep
            exact ⟨rfl, rfl, rfl, rfl, Or.inr rfl,
              [(.setBootPartition s.updatePartition, s.session)], rfl, by simp, by simp⟩
          · split at hStep
            · cases hStep
              exact ⟨rfl, rfl, rfl, rfl, Or.inr rfl,
                [(.setBootPartition s.updatePartition, s.session)], rfl, by simp, by simp⟩
            · cases hStep
              refine ⟨rfl, rfl, rfl, rfl, Or.inr rfl,
                [(.setBootPartition s.updatePartition, s.session),
                  (.reportActivated s.updatePartition, s.session)], ?_, by simp, by simp⟩
              exact List.append_assoc ..
      · cases hStep
        exact ⟨rfl, rfl, rfl, rfl, Or.inl rfl,
          [(.reportActivated s.updatePartition, s.session)], rfl, by simp, by simp⟩

theorem Linked.otaActivate {callocOk : Bool} {setBoot : EspErr}
    {timerCreated timerStarted : Bool} (h : Linked s)
    (hStep : step s (.otaActivate callocOk setBoot timerCreated timerStarted) = some s') :
    Linked s' := by
  rcases otaActivate_spec hStep with ⟨-, rfl⟩ | ⟨-, hSession, hFirst, hHandle, hPart, -⟩
  · exact h
  · refine ⟨?_, ?_, ?_⟩
    · rw [hFirst, hSession, h.first]
    · rw [hSession, hHandle]
      exact h.handle
    · rw [hSession, hPart]
      exact h.partition

/-- The handler acts in every state, so the request has to come after a complete update. -/
theorem callsSafe_otaActivate_iff {callocOk : Bool} {setBoot : EspErr}
    {timerCreated timerStarted : Bool} (h : Linked s) (hSafe : CallsSafe s)
    (hStep : step s (.otaActivate callocOk setBoot timerCreated timerStarted) = some s') :
    CallsSafe s' ↔ InOrder s (.otaActivate callocOk setBoot timerCreated timerStarted) := by
  rcases otaActivate_spec hStep with ⟨rfl, rfl⟩ | ⟨rfl, -, -, -, -, -, new, hCalls, hNe, hNew⟩
  · exact iff_of_true hSafe nofun
  · have hEach : ∀ e ∈ new, e.1.Safe e.2 ↔ s.session.Completed s.session.partition := by
      intro e hMem
      obtain ⟨hSession, hKind⟩ := hNew e hMem
      rw [← h.completed_iff, hSession]
      rcases hKind with hKind | hKind <;> rw [hKind] <;> exact Iff.rfl
    constructor
    · intro h' _
      obtain ⟨e, hMem⟩ := List.exists_mem_of_ne_nil new hNe
      refine (hEach e hMem).mp (h' e ?_)
      rw [hCalls]
      exact List.mem_append_right _ hMem
    · intro hOrder e hMem
      rw [hCalls] at hMem
      rcases List.mem_append.mp hMem with hOld | hMem
      · exact hSafe e hOld
      · exact (hEach e hMem).mpr (hOrder rfl)

/-! ## Every run -/

theorem Linked.step {a : Action} (h : Linked s) (hStep : step s a = some s') : Linked s' := by
  cases a with
  | otaBegin callocOk next ret newHandle => exact h.otaBegin hStep
  | otaWrite callocOk data validity ret => exact h.otaWrite hStep
  | otaEnd callocOk ret => exact h.otaEnd hStep
  | otaActivate callocOk setBoot timerCreated timerStarted => exact h.otaActivate hStep
  | restart =>
    simp only [Ota.step] at hStep
    split at hStep
    · cases hStep
    · cases hStep
      exact ⟨rfl, nofun, nofun⟩

/-- A step keeps every call safe exactly when its request is in order. -/
theorem callsSafe_step_iff {a : Action} (h : Linked s) (hSafe : CallsSafe s)
    (hStep : step s a = some s') : CallsSafe s' ↔ InOrder s a := by
  cases a with
  | otaBegin callocOk next ret newHandle =>
    refine iff_of_true ?_ trivial
    unfold CallsSafe
    rw [callsSafe_otaBegin hStep]
    exact hSafe
  | otaWrite callocOk data validity ret => exact callsSafe_otaWrite_iff h hSafe hStep
  | otaEnd callocOk ret => exact callsSafe_otaEnd_iff h hSafe hStep
  | otaActivate callocOk setBoot timerCreated timerStarted =>
    exact callsSafe_otaActivate_iff h hSafe hStep
  | restart =>
    simp only [Ota.step] at hStep
    split at hStep
    · cases hStep
    · cases hStep
      exact iff_of_true hSafe trivial

theorem boot_linked : Linked boot := ⟨rfl, nofun, nofun⟩

/-- As long as every request comes in order, every call of the flash functions is safe, and an
activation is reported only after a complete update of the partition that is named. -/
theorem ota_safe (hRun : Reaches step InOrder boot s) : CallsSafe s := by
  have hBoth : Linked s ∧ CallsSafe s := by
    refine hRun.invariant (I := fun s => Linked s ∧ CallsSafe s) ⟨boot_linked, nofun⟩ ?_
    intro t a u hInv hOrder hStep
    obtain ⟨h, hSafe⟩ := hInv
    exact ⟨h.step hStep, (callsSafe_step_iff h hSafe hStep).mpr hOrder⟩
  exact hBoth.2

/-- An update that is open has not been ended, and one that was ended can be activated. -/
structure Ready (s : State) : Prop where
  opened : s.session.begun = true → s.session.openHandle.isSome = true → s.session.ended = false
  ended : s.session.begun = true → s.session.ended = true →
    s.otaStatus = .completed ∨ s.otaStatus = .activated

theorem Ready.otaEnd {callocOk : Bool} {ret : EspErr} (h : Ready s)
    (hOrder : InOrder s (.otaEnd callocOk ret)) (hStep : step s (.otaEnd callocOk ret) = some s') :
    Ready s' := by
  simp only [Ota.step, reqOtaEndHandler] at hStep
  split at hStep
  · cases hStep
  · cases callocOk with
    | false =>
      cases hStep
      refine ⟨fun hBegun hOpen => ?_, fun hBegun hEnded => h.ended hBegun ?_⟩
      · simpa [Session.answerEnd] using h.opened hBegun hOpen
      · simpa [Session.answerEnd] using hEnded
    | true =>
      have hOpen := hOrder rfl
      simp only [if_true] at hStep
      split at hStep
      · rename_i hFail
        cases hStep
        refine ⟨nofun, fun hBegun hEnded => ?_⟩
        have hAnswer : (s.session.answerEnd (some ret)).ended = true := hEnded
        have hStill : s.session.ended = true := by simpa [Session.answerEnd, hFail] using hAnswer
        rw [h.opened hBegun hOpen] at hStill
        cases hStill
      · cases hStep
        exact ⟨nofun, fun _ _ => Or.inl rfl⟩

theorem Ready.step {a : Action} (h : Ready s) (hOrder : InOrder s a)
    (hStep : step s a = some s') : Ready s' := by
  cases a with
  | otaBegin callocOk next ret newHandle =>
    simp only [Ota.step, reqOtaBeginHandler] at hStep
    have hFailed : ∀ t : State, t.session.begun = false → Ready t := fun t hBegun =>
      ⟨fun h' => absurd (hBegun.symm.trans h') Bool.false_ne_true,
        fun h' => absurd (hBegun.symm.trans h') Bool.false_ne_true⟩
    split at hStep
    · cases hStep
    · split at hStep
      · split at hStep
        · cases hStep
          exact hFailed _ rfl
        · split at hStep
          · rename_i hFail
            have hResp : (some ret = some success) = False := by simpa using hFail
            simp only [Session.answerBegin, hResp, if_false] at hStep
            cases hStep
            exact hFailed _ rfl
          · cases hStep
            exact ⟨fun _ _ => rfl, fun _ hEnded => absurd hEnded Bool.false_ne_true⟩
      · cases hStep
        exact hFailed _ rfl
  | otaWrite callocOk data validity ret =>
    have hFrame := otaWrite_frame hStep
    refine ⟨?_, ?_⟩
    · rw [hFrame.begun, hFrame.openHandle, hFrame.ended]
      exact h.opened
    · rw [hFrame.begun, hFrame.ended, hFrame.otaStatus]
      exact h.ended
  | otaEnd callocOk ret => exact h.otaEnd hOrder hStep
  | otaActivate callocOk setBoot timerCreated timerStarted =>
    rcases otaActivate_spec hStep with ⟨-, rfl⟩ | ⟨-, hSession, -, -, -, hStatus, -⟩
    · exact h
    · refine ⟨?_, ?_⟩
      · rw [hSession]
        exact h.opened
      · rw [hSession]
        intro hBegun hEnded
        rcases hStatus with hStatus | hStatus <;> rw [hStatus]
        · exact h.ended hBegun hEnded
        · exact Or.inr rfl
  | restart =>
    simp only [Ota.step] at hStep
    split at hStep
    · cases hStep
    · cases hStep
      exact ⟨nofun, nofun⟩

/-- In such a run a complete update is ready to be activated, or was activated. -/
theorem completed_status (hRun : Reaches step InOrder boot s)
    (hCompleted : s.session.Completed s.session.partition) :
    s.otaStatus = .completed ∨ s.otaStatus = .activated := by
  have hReady : Ready s := hRun.invariant ⟨nofun, nofun⟩
    fun _ _ _ h hOrder hStep => h.step hOrder hStep
  exact hReady.ended hCompleted.1 hCompleted.2.2.1

end Steps

/-- Partition 1 is updated with one chunk and activated; a second begin fails. -/
def updateOnce : List Action :=
  [.otaBegin true (some 1) 0 7, .otaWrite true (List.replicate 288 0) 0 0, .otaEnd true 0,
    .otaActivate true 0 true true, .otaBegin true none 0 0]

theorem ota_safe_updateOnce :
    ∃ s, Reaches step InOrder boot s ∧ s.calls.map Prod.fst = [.otaWrite 7, .otaEnd 7,
      .setBootPartition (some 1), .reportActivated (some 1)] ∧ CallsSafe s := by
  obtain ⟨s, hs, hCalls⟩ := Option.map_eq_some_iff.mp
    (show (runGuarded step InOrder boot updateOnce).map (fun s => s.calls.map Prod.fst) =
      some [.otaWrite 7, .otaEnd 7, .setBootPartition (some 1), .reportActivated (some 1)]
      by decide +kernel)
  exact ⟨s, .of_run hs, hCalls, ota_safe (.of_run hs)⟩

/-- An activation that comes before any begin is answered with `SUCCESS`. -/
theorem not_ota_safe : ¬ ∀ s, Reaches step anyStep boot s → CallsSafe s := by
  intro h
  obtain ⟨s, hs, hCalls⟩ := Option.map_eq_some_iff.mp
    (show (run step boot [.otaActivate true 0 true true]).map State.calls =
      some [(.reportActivated none, noSession)] by decide +kernel)
  have hSafe := h s (.of_plain_run hs) (.reportActivated none, noSession)
    (by rw [hCalls]; exact List.mem_singleton_self _)
  exact Bool.false_ne_true hSafe.1

end EspHosted.Ota
