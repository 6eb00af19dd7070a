import EspHosted.Lib.Machine

/-!
# Waking the host up

The slave keeps in `power_save_on` whether the host sleeps, and in the binary semaphore
`wakeup_sem` whether somebody who waits for the host may go on. `host_power_save_alert` takes
the semaphore and then sets the flag when the host goes to sleep, and clears the flag and then
gives the semaphore when it wakes up. `trigger_host_wakeup` waits for the semaphore, and gives it
back when it got it.

Any number of threads run these functions and `host_power_save_init`. A step is one access to
the flag or the semaphore.

* `wakeup_agree`: while nobody is about to give the semaphore, it is available only if the host
  is awake, and every successful `trigger_host_wakeup` saw the host awake. This needs that the
  two statements of an ON do not fall between the two of anything that gives the semaphore, nor
  the other way round, and that no ON was the last alert when the semaphore is created.
-/

namespace EspHosted.Power

open Machine

/-! ## Model -/

/-- `ESP_POWER_SAVE_ON`, `ESP_POWER_SAVE_OFF` with `ESP_OPEN_DATA_PATH`, and the rest. -/
inductive PsEvent
  | on
  | off
  | other

/-- Where a thread is: in `host_power_save_alert` before it takes the semaphore, sets the flag,
clears the flag, gives the semaphore; in `host_power_save_init` before it looks for the semaphore
and before it gives it; in `trigger_host_wakeup` in the loop and before it gives the semaphore
back. A call of `trigger_host_wakeup` remembers whether the flag was cleared since it began. -/
inductive Pc
  | idle
  | onTake
  | onSet
  | offClear
  | offGive
  | initSem
  | initGive
  | waiting (sawAwake : Bool)
  | holding (sawAwake : Bool)
  deriving DecidableEq

/-- The thread is going to give the semaphore. -/
def Pc.owes : Pc → Bool
  | .offGive | .initGive | .holding _ => true
  | _ => false

/-- The flag is cleared during the call. -/
def Pc.seeAwake : Pc → Pc
  | .waiting _ => .waiting true
  | .holding _ => .holding true
  | pc => pc

/-- `successes` has an entry for every call of `trigger_host_wakeup` that returned success:
whether the flag was cleared at some time during the call. `lastOn` says that the last alert to
come to its assignment was an ON. -/
structure State where
  enable : Bool
  powerSaveOn : Bool
  wakeupSem : Option Bool
  threads : List Pc
  successes : List Bool
  lastOn : Bool

def boot (n : Nat) : State :=
  { enable := false, powerSaveOn := false, wakeupSem := none, threads := List.replicate n .idle,
    successes := [], lastOn := false }

/-- Thread `i` goes on from `p` to `q`. -/
def State.move (s : State) (i : Nat) (p q : Pc) : Option State :=
  if s.threads[i]? = some p then some { s with threads := s.threads.set i q } else none

/-- Giving a binary semaphore, if it is there. -/
def State.give (s : State) : State := { s with wakeupSem := s.wakeupSem.map fun _ => true }

inductive Action
  | alert (i : Nat) (event : PsEvent)
  | onTake (i : Nat)
  | onSet (i : Nat)
  | offClear (i : Nat)
  | offGive (i : Nat)
  | init (i : Nat) (enable gpioOk : Bool)
  | initSem (i : Nat)
  | initGive (i : Nat)
  | trigger (i : Nat)
  | triggerTake (i : Nat)
  | triggerGive (i : Nat)
  | triggerFail (i : Nat)

/-- `host_power_save_alert` is entered. -/
def hostPowerSaveAlert (s : State) (i : Nat) : PsEvent → Option State
  | .on => s.move i .idle (if s.enable then .onTake else .idle)
  | .off => s.move i .idle (if s.enable then .offClear else .idle)
  | .other => s.move i .idle .idle

/-- `xSemaphoreTake(wakeup_sem, 0)`, whatever comes of it. -/
def onTake (s : State) (i : Nat) : Option State :=
  (s.move i .onTake .onSet).map fun s => { s with wakeupSem := s.wakeupSem.map fun _ => false }

def onSet (s : State) (i : Nat) : Option State :=
  (s.move i .onSet .idle).map fun s => { s with powerSaveOn := true, lastOn := true }

def offClear (s : State) (i : Nat) : Option State :=
  (s.move i .offClear .offGive).map fun s =>
    { s with powerSaveOn := false, threads := s.threads.map Pc.seeAwake, lastOn := false }

def offGive (s : State) (i : Nat) : Option State := (s.move i .offGive .idle).map State.give

/-- `host_power_save_init` up to its semaphore. -/
def hostPowerSaveInit (s : State) (i : Nat) (enable gpioOk : Bool) : Option State :=
  (s.move i .idle (if enable && gpioOk then .initSem else .idle)).map fun s => { s with enable }

/-- `if (!wakeup_sem) wakeup_sem = xSemaphoreCreateBinary()`. -/
def initSem (s : State) (i : Nat) : Option State :=
  match s.wakeupSem with
  | some _ => s.move i .initSem .idle
  | none => (s.move i .initSem .initGive).map fun s => { s with wakeupSem := some false }

def initGive (s : State) (i : Nat) : Option State := (s.move i .initGive .idle).map State.give

def trigger (s : State) (i : Nat) : Option State := s.move i .idle (.waiting (!s.powerSaveOn))

def triggerTake (s : State) (i : Nat) : Option State :=
  match s.threads[i]?, s.wakeupSem with
  | some (.waiting saw), some true =>
    some { s with threads := s.threads.set i (.holding saw), wakeupSem := some false }
  | _, _ => none

def triggerGive (s : State) (i : Nat) : Option State :=
  match s.threads[i]? with
  | some (.holding saw) =>
    some { s.give with threads := s.threads.set i .idle, successes := s.successes ++ [saw] }
  | _ => none

/-- The time is over, or there is no timer. -/
def triggerFail (s : State) (i : Nat) : Option State :=
  match s.threads[i]? with
  | some (.waiting _) => some { s with threads := s.threads.set i .idle }
  | _ => none

def step (s : State) : Action → Option State
  | .alert i event => hostPowerSaveAlert s i event
  | .onTake i => onTake s i
  | .onSet i => onSet s i
  | .offClear i => offClear s i
  | .offGive i => offGive s i
  | .init i enable gpioOk => hostPowerSaveInit s i enable gpioOk
  | .initSem i => initSem s i
  | .initGive i => initGive s i
  | .trigger i => trigger s i
  | .triggerTake i => triggerTake s i
  | .triggerGive i => triggerGive s i
  | .triggerFail i => triggerFail s i

/-! ## What is kept -/

/-- No alert and no init is running, and nobody has taken the semaphore to give it back. -/
def Quiescent (s : State) : Prop :=
  ∀ pc ∈ s.threads, pc = .idle ∨ ∃ saw, pc = .waiting saw

/-- What the semaphore stands for. -/
structure Agree (s : State) : Prop where
  sem : Quiescent s → s.wakeupSem = some true → s.powerSaveOn = false
  woken : ∀ sawAwake ∈ s.successes, sawAwake = true

/-- The semaphore is available, or somebody is about to give it. -/
def Token (s : State) : Prop := s.wakeupSem = some true ∨ ∃ pc ∈ s.threads, pc.owes = true

instance (s : State) : Decidable (Token s) := inferInstanceAs (Decidable (_ ∨ _))

/-- An ON takes the semaphore while nobody is between his two statements and is going to give
it; no OFF and no init begins with his while an ON is between its two; and the last alert before
the semaphore is created was not an ON. -/
def InOrder (s : State) : Action → Prop
  | .onTake _ => ∀ pc ∈ s.threads, pc.owes = false
  | .offClear _ => .onSet ∉ s.threads
  | .initSem _ => s.wakeupSem = none → .onSet ∉ s.threads ∧ s.lastOn = false
  | _ => True

instance (s : State) (a : Action) : Decidable (InOrder s a) := by
  cases a using Action.casesOn <;> unfold InOrder <;> infer_instance

/-- What a call of `trigger_host_wakeup` knows of the host. -/
def Pc.Informed (powerSaveOn : Bool) : Pc → Prop
  | .waiting saw => powerSaveOn = false → saw = true
  | .holding saw => saw = true
  | _ => True

/-- While a token is around the host is awake, and no ON has taken the semaphore without setting
the flag. -/
structure WakeupInv (s : State) : Prop where
  token : Token s → s.powerSaveOn = false
  taken : .onSet ∈ s.threads → ¬ Token s
  lastOn : s.powerSaveOn = s.lastOn
  informed : ∀ pc ∈ s.threads, pc.Informed s.powerSaveOn
  woken : ∀ sawAwake ∈ s.successes, sawAwake = true

section Steps

variable {s s' : State}

/-- The token that is there when a thread is elsewhere was there before, or is the thread's. -/
theorem token_set {i : Nat} {q : Pc} (hToken : Token { s with threads := s.threads.set i q }) :
    Token s ∨ q.owes = true := by
  rcases hToken with hSem | ⟨pc, hMem, hPc⟩
  · exact Or.inl (Or.inl hSem)
  · rcases List.mem_or_eq_of_mem_set hMem with hOld | rfl
    · exact Or.inl (Or.inr ⟨pc, hOld, hPc⟩)
    · exact Or.inr hPc

theorem onSet_mem_set {i : Nat} {q : Pc} (hq : q ≠ .onSet) (hMem : .onSet ∈ s.threads.set i q) :
    .onSet ∈ s.threads := by
  rcases List.mem_or_eq_of_mem_set hMem with hOld | rfl
  · exact hOld
  · exact absurd rfl hq

/-- A thread is elsewhere, and is not going to give the semaphore. -/
theorem WakeupInv.set (h : WakeupInv s) (i : Nat) {q : Pc} (hOwes : q.owes = false)
    (hSet : q ≠ .onSet) (hInformed : q.Informed s.powerSaveOn) :
    WakeupInv { s with threads := s.threads.set i q } := by
  have hOld : Token { s with threads := s.threads.set i q } → Token s := by
    intro hToken
    rcases token_set hToken with hOld | hq
    · exact hOld
    · exact absurd (hOwes.symm.trans hq) Bool.false_ne_true
  refine { h with
    token := fun hToken => h.token (hOld hToken)
    taken := fun hMem hToken => h.taken (onSet_mem_set hSet hMem) (hOld hToken)
    informed := fun pc hMem => ?_ }
  rcases List.mem_or_eq_of_mem_set hMem with hMemOld | rfl
  · exact h.informed pc hMemOld
  · exact hInformed

theorem move_eq {i : Nat} {p q : Pc} (hMove : s.move i p q = some s') :
    p ∈ s.threads ∧ s' = { s with threads := s.threads.set i q } := by
  simp only [State.move, Option.ite_none_right_eq_some] at hMove
  obtain ⟨hPc, hEq⟩ := hMove
  cases hEq
  exact ⟨List.mem_of_getElem? hPc, rfl⟩

theorem WakeupInv.move (h : WakeupInv s) {i : Nat} {p q : Pc} (hMove : s.move i p q = some s')
    (hOwes : q.owes = false) (hSet : q ≠ .onSet) (hInformed : q.Informed s.powerSaveOn) :
    WakeupInv s' := by
  obtain ⟨-, rfl⟩ := move_eq hMove
  exact h.set i hOwes hSet hInformed

theorem token_of_mem {pc : Pc} (hMem : pc ∈ s.threads) (hOwes : pc.owes = true) : Token s :=
  Or.inr ⟨pc, hMem, hOwes⟩

theorem Pc.Informed.sleep {b : Bool} {pc : Pc} (h : pc.Informed b) : pc.Informed true := by
  cases pc <;> first | exact h | nofun

theorem Pc.informed_seeAwake (pc : Pc) : pc.seeAwake.Informed false := by
  cases pc <;> simp [Pc.seeAwake, Pc.Informed]

theorem Pc.eq_onSet_of_seeAwake {pc : Pc} (h : pc.seeAwake = .onSet) : pc = .onSet := by
  cases pc <;> first | exact h | cases h

/-- Who has a token goes on with it, or gives it: nobody is between the two statements of an
ON. -/
theorem WakeupInv.give (h : WakeupInv s) (hToken : Token s) (i : Nat) {q : Pc}
    (hSet : q ≠ .onSet) (hInformed : q.Informed s.powerSaveOn) (sem : Option Bool) :
    WakeupInv { s with threads := s.threads.set i q, wakeupSem := sem } := by
  refine { h with
    token := fun _ => h.token hToken
    taken := fun hMem _ => h.taken (onSet_mem_set hSet hMem) hToken
    informed := fun pc hMem => ?_ }
  rcases List.mem_or_eq_of_mem_set hMem with hOld | rfl
  · exact h.informed pc hOld
  · exact hInformed

/-- The semaphore is taken while nobody is going to give it. -/
theorem inv_onTake {i : Nat} (h : WakeupInv s) (hOrder : InOrder s (.onTake i))
    (hStep : onTake s i = some s') : WakeupInv s' := by
  obtain ⟨t, hMove, rfl⟩ := Option.map_eq_some_iff.mp hStep
  obtain ⟨-, rfl⟩ := move_eq hMove
  have hNone : ¬ Token { s with threads := s.threads.set i .onSet
                                wakeupSem := s.wakeupSem.map fun _ => false } := by
    rintro (hSem | ⟨pc, hMem, hPc⟩)
    · replace hSem : s.wakeupSem.map (fun _ => false) = some true := hSem
      cases hOld : s.wakeupSem <;> simp [hOld] at hSem
    · rcases List.mem_or_eq_of_mem_set hMem with hOld | rfl
      · exact absurd ((hOrder pc hOld).symm.trans hPc) Bool.false_ne_true
      · cases hPc
  refine { h with
    token := fun hToken => absurd hToken hNone
    taken := fun _ => hNone
    informed := fun pc hMem => ?_ }
  rcases List.mem_or_eq_of_mem_set hMem with hOld | rfl
  · exact h.informed pc hOld
  · trivial

/-- The flag is set, and no token is around since the semaphore was taken. -/
theorem inv_onSet {i : Nat} (h : WakeupInv s) (hStep : onSet s i = some s') : WakeupInv s' := by
  obtain ⟨t, hMove, rfl⟩ := Option.map_eq_some_iff.mp hStep
  obtain ⟨hMem, rfl⟩ := move_eq hMove
  have hNone : ¬ Token { s with threads := s.threads.set i .idle } := by
    intro hToken
    rcases token_set hToken with hOld | hOwes
    · exact h.taken hMem hOld
    · cases hOwes
  have ht := h.set i (q := .idle) rfl nofun trivial
  exact { ht with
    token := fun hToken => absurd hToken hNone
    lastOn := rfl
    informed := fun pc hMem => (ht.informed pc hMem).sleep }

/-- The flag is cleared while no ON is between its two statements. -/
theorem inv_offClear {i : Nat} (h : WakeupInv s) (hOrder : InOrder s (.offClear i))
    (hStep : offClear s i = some s') : WakeupInv s' := by
  obtain ⟨t, hMove, rfl⟩ := Option.map_eq_some_iff.mp hStep
  obtain ⟨-, rfl⟩ := move_eq hMove
  refine { h with token := fun _ => rfl, taken := fun hMem _ => ?_, lastOn := rfl
                  informed := fun pc hMem => ?_ }
  · obtain ⟨q, hq, hEq⟩ := List.mem_map.mp hMem
    rw [Pc.eq_onSet_of_seeAwake hEq] at hq
    exact hOrder (onSet_mem_set (q := .offGive) nofun hq)
  · obtain ⟨q, -, rfl⟩ := List.mem_map.mp hMem
    exact q.informed_seeAwake

/-- The semaphore is created while no ON is between its two statements and the host is awake. -/
theorem inv_initSem {i : Nat} (h : WakeupInv s) (hOrder : InOrder s (.initSem i))
    (hStep : initSem s i = some s') : WakeupInv s' := by
  simp only [initSem] at hStep
  split at hStep
  · exact h.move hStep rfl nofun trivial
  · rename_i hNone
    obtain ⟨hNoOn, hLast⟩ := hOrder hNone
    have hAwake : s.powerSaveOn = false := h.lastOn.trans hLast
    obtain ⟨t, hMove, rfl⟩ := Option.map_eq_some_iff.mp hStep
    obtain ⟨-, rfl⟩ := move_eq hMove
    refine { h with
      token := fun _ => hAwake
      taken := fun hMem _ => hNoOn (onSet_mem_set (q := .initGive) nofun hMem)
      informed := fun pc hMem => ?_ }
    rcases List.mem_or_eq_of_mem_set hMem with hOld | rfl
    · exact h.informed pc hOld
    · trivial

theorem inv_triggerTake {i : Nat} (h : WakeupInv s) (hStep : triggerTake s i = some s') :
    WakeupInv s' := by
  simp only [triggerTake] at hStep
  split at hStep
  · rename_i saw hPc hSem
    have hToken : Token s := Or.inl hSem
    have hSaw : saw = true := h.informed _ (List.mem_of_getElem? hPc) (h.token hToken)
    cases hStep
    exact h.give hToken i (q := .holding saw) nofun hSaw _
  · cases hStep

theorem inv_triggerGive {i : Nat} (h : WakeupInv s) (hStep : triggerGive s i = some s') :
    WakeupInv s' := by
  simp only [triggerGive] at hStep
  split at hStep
  · rename_i saw hPc
    have hMem := List.mem_of_getElem? hPc
    have hSaw : saw = true := h.informed _ hMem
    have ht := h.give (token_of_mem hMem rfl) i (q := .idle) nofun trivial
      (s.wakeupSem.map fun _ => true)
    cases hStep
    refine { ht with woken := fun b hNew => ?_ }
    rcases List.mem_append.mp hNew with hOld | hLast
    · exact h.woken b hOld
    · rw [List.mem_singleton.mp hLast]
      exact hSaw
  · cases hStep

theorem step_inv {a : Action} (h : WakeupInv s) (hOrder : InOrder s a)
    (hStep : step s a = some s') : WakeupInv s' := by
  cases a with
  | alert i event =>
    cases event with
    | on =>
      refine h.move (p := .idle) hStep ?_ ?_ ?_
      · split <;> rfl
      · split <;> nofun
      · split <;> trivial
    | off =>
      refine h.move (p := .idle) hStep ?_ ?_ ?_
      · split <;> rfl
      · split <;> nofun
      · split <;> trivial
    | other => exact h.move hStep rfl nofun trivial
  | onTake i => exact inv_onTake h hOrder hStep
  | onSet i => exact inv_onSet h hStep
  | offClear i => exact inv_offClear h hOrder hStep
  | offGive i =>
    obtain ⟨t, hMove, rfl⟩ := Option.map_eq_some_iff.mp hStep
    obtain ⟨hMem, rfl⟩ := move_eq hMove
    exact h.give (token_of_mem hMem rfl) i (q := .idle) nofun trivial _
  | init i enable gpioOk =>
    obtain ⟨t, hMove, rfl⟩ := Option.map_eq_some_iff.mp hStep
    have ht : WakeupInv t := by
      refine h.move hMove ?_ ?_ ?_
      · split <;> rfl
      · split <;> nofun
      · split <;> trivial
    exact { ht with }
  | initSem i => exact inv_initSem h hOrder hStep
  | initGive i =>
    obtain ⟨t, hMove, rfl⟩ := Option.map_eq_some_iff.mp hStep
    obtain ⟨hMem, rfl⟩ := move_eq hMove
    exact h.give (token_of_mem hMem rfl) i (q := .idle) nofun trivial _
  | trigger i =>
    refine h.move hStep rfl nofun fun hAwake => ?_
    rw [hAwake]
    rfl
  | triggerTake i => exact inv_triggerTake h hStep
  | triggerGive i => exact inv_triggerGive h hStep
  | triggerFail i =>
    simp only [step, triggerFail] at hStep
    split at hStep
    · cases hStep
      exact h.set i rfl nofun trivial
    · cases hStep

theorem boot_inv (n : Nat) : WakeupInv (boot n) := by
  refine ⟨fun _ => rfl, fun hMem => ?_, rfl, fun pc hMem => ?_, nofun⟩
  · cases List.eq_of_mem_replicate hMem
  · rw [List.eq_of_mem_replicate hMem]
    trivial

/-- As long as no ON falls into an OFF, an init or a give-back, nor the other way round, and no ON
came last when the semaphore is created, the semaphore is available only if the host is awake
whenever nobody is about to give it, and `trigger_host_wakeup` returns success only if the host
was awake at some time during the call. -/
theorem wakeup_agree {n : Nat} (hRun : Reaches step InOrder (boot n) s) : Agree s := by
  have h : WakeupInv s := hRun.invariant (boot_inv n) fun _ _ _ => step_inv
  exact ⟨fun _ hSem => h.token (Or.inl hSem), h.woken⟩

end Steps

/-- The host goes to sleep, thread 1 wakes it up, and the host answers. -/
def wakeUp : List Action :=
  [.init 0 true true, .initSem 0, .initGive 0, .alert 0 .on, .onTake 0, .onSet 0, .trigger 1,
    .alert 0 .off, .offClear 0, .offGive 0, .triggerTake 1]

theorem wakeup_agree_once :
    ∃ s, Reaches step InOrder (boot 2) s ∧ s.successes = [true] ∧ Agree s := by
  obtain ⟨s, hs, hSuccess⟩ := Option.map_eq_some_iff.mp
    (show (runGuarded step InOrder (boot 2) (wakeUp ++ [.triggerGive 1])).map
      (fun s => s.successes) = some [true] by decide +kernel)
  exact ⟨s, .of_run hs, hSuccess, wakeup_agree (.of_run hs)⟩

/-- The host goes to sleep again while thread 1 has the semaphore: there is nothing to take, and
the semaphore that thread 1 gives back is available while the host sleeps. -/
theorem not_wakeup_agree : ¬ ∀ n s, Reaches step anyStep (boot n) s → Agree s := by
  intro h
  obtain ⟨s, hs, hView⟩ := Option.map_eq_some_iff.mp
    (show (run step (boot 2) (wakeUp ++
      ([.alert 0 .on, .onTake 0, .onSet 0, .triggerGive 1] : List Action))).map (fun s =>
        (s.threads, s.wakeupSem, s.powerSaveOn)) = some ([.idle, .idle], some true, true)
      by decide +kernel)
  obtain ⟨hThreads, hSem, hSleep⟩ : s.threads = [.idle, .idle] ∧ s.wakeupSem = some true ∧
      s.powerSaveOn = true := by simpa using hView
  have hAwake := (h 2 s (.of_plain_run hs)).sem
    (fun pc hMem => Or.inl (by rw [hThreads] at hMem; simpa using hMem)) hSem
  rw [hSleep] at hAwake
  cases hAwake

end EspHosted.Power
