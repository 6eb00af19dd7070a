import EspHosted.Lib.Machine
import EspHosted.Lib.Trace
import EspHosted.Wifi.Station

/-!
# Link events

The co-processor tells the host about its links: `StaConnected` when a connected event is handled,
and again for a connect request or a wake-up of the host while `station_connected` is set;
`StaDisconnected` when a disconnected event is handled, unless `suppress_disconnect` is set. The
flag is tested in one task and cleared in another, and the link does not wait for either.

* `queue_step`: the pending events lead from the link that the event loop knows to the link of the
  driver;
* `inv_step`: a link is either reported or its disconnected event will be suppressed, and
  `station_connected` says which, as far as the event loop has come;
* `truthful`: so `StaConnected` is sent only while the link is up, every reported link is reported
  to end, and no suppressed event belongs to a reported link, as long as no link ends between the
  test and the report.
-/

namespace EspHosted.Wifi.LinkEvents

open Machine Trace Station

/-! ## What is kept -/

@[simp]
def connectedTo (k : Nat) : Report → Bool
  | .staConnected link _ => link == k
  | _ => false

@[simp]
def disconnectedFrom (k : Nat) : Report → Bool
  | .staDisconnected link => link == some k
  | _ => false

@[simp]
def isConnected : Report → Bool
  | .staConnected .. => true
  | _ => false

@[simp]
def isDisconnected : Report → Bool
  | .staDisconnected _ => true
  | _ => false

/-- The link state that the host was told last. -/
def lastReported (sent : List Report) : Bool := latched isConnected isDisconnected sent

/-- The link whose disconnected event is being handled, up to its report. -/
def ending : EvtPc → Option Nat
  | .discTest link | .discApply link | .discClear link | .discDown link _ | .discMark link _
  | .discConnect link | .discCheck link | .discSend link | .discUnsuppress link => link
  | _ => none

/-- Link `k` is down, and its disconnected event has been handled. -/
def Over (s : State) (k : Nat) : Prop :=
  ¬ (s.driver.up = true ∧ s.driver.links = k) ∧ .staDisconnected (some k) ∉ s.driver.pending ∧
    ending s.evt ≠ some k

/-- `StaConnected` was sent only while the link was up, reported links are reported to end, the
suppressed events belong to links that were never reported, and `station_connected` is what the host
was told. -/
structure Truthful (s : State) : Prop where
  live : ∀ k up, .staConnected k up ∈ s.sent → up = true
  ended : ∀ past k up rest, s.sent = past ++ .staConnected k up :: rest → Over s k →
    .staDisconnected (some k) ∈ rest
  hidden : ∀ l ∈ s.hidden, ∃ k, l = some k ∧ ∀ up, .staConnected k up ∉ s.sent
  flag : s.driver.pending = [] → s.evt = .idle → s.stationConnected = lastReported s.sent

/-! ## When a link may end -/

def isDisconnectedEvent : DriverEvent → Bool
  | .staDisconnected _ => true
  | _ => false

/-- The branch for `WIFI_EVENT_STA_DISCONNECTED`. -/
def disconnects : EvtPc → Bool
  | .discTest _ | .discApply _ | .discClear _ | .discDown .. | .discMark .. | .discConnect _
  | .discCheck _ | .discSend _ | .discAuto | .discUnsuppress _ => true
  | _ => false

/-- No disconnected event is pending or being handled. -/
def calm (s : State) : Bool := !s.driver.pending.any isDisconnectedEvent && !disconnects s.evt

/-- The event loop found no cached configuration, and did not report the new link yet. -/
def announces : EvtPc → Bool
  | .connReset _ | .connSend _ => true
  | _ => false

/-- A task is going to send `StaConnected`. -/
def reporting (s : State) : Bool := decide (s.req = .connectSend) || s.dhcpSends || announces s.evt

/-- The link does not end while a task is going to send `StaConnected` for it: it does not go down
then, `station_connected` is not found set while a disconnected event is pending or being handled,
and a connected event that will be reported is not handled after the link went down. -/
def Timely (s : State) : Action → Prop
  | .req r =>
    match s.req with
    | .connectTest => s.stationConnected = true → calm s = true
    | .disconnect => s.driver.up = true → r.disconnectRet = .espOk → r.disconnectNow = true →
      reporting s = false
    | _ => True
  | .dhcpTest => s.stationConnected = true → calm s = true
  | .evt _ =>
    match s.evt with
    | .connTest link => s.newConfigRecvd = false →
      .staDisconnected (some link) ∉ s.driver.pending
    | _ => True
  | .leave | .stop => s.driver.up = true → reporting s = false
  | _ => True

instance (s : State) (a : Action) : Decidable (Timely s a) := by
  unfold Timely
  split
  · split <;> infer_instance
  · infer_instance
  · split <;> infer_instance
  · infer_instance
  · infer_instance
  · infer_instance

/-! ## Pending events -/

/-- What an event says about the link, if it fits: the number of links, and whether the last of
them is up. -/
def observe : Nat × Bool → DriverEvent → Option (Nat × Bool)
  | (n, up), .staConnected k => if up = false ∧ k = n + 1 then some (k, true) else none
  | (n, up), .staDisconnected (some k) => if up = true ∧ k = n then some (n, false) else none
  | (n, up), .staDisconnected none => if up = false then some (n, up) else none
  | v, .staStart | v, .staStop => some v

def replay (v : Nat × Bool) (l : List DriverEvent) : Option (Nat × Bool) := l.foldlM observe v

theorem replay_cons {v w : Nat × Bool} {e : DriverEvent} {l : List DriverEvent} :
    replay v (e :: l) = some w ↔ ∃ u, observe v e = some u ∧ replay u l = some w :=
  Option.bind_eq_some_iff

theorem replay_append {v w : Nat × Bool} {e : DriverEvent} {l : List DriverEvent}
    (h : replay v l = some w) : replay v (l ++ [e]) = observe w e := by
  unfold replay at h ⊢
  simp [List.foldlM_append, h]

/-- The links are counted up. -/
theorem replay_le {n m : Nat} {v up : Bool} {l : List DriverEvent}
    (h : replay (n, v) l = some (m, up)) : n ≤ m := by
  induction l generalizing n v with
  | nil =>
    cases h
    exact Nat.le_refl _
  | cons e l ih =>
    obtain ⟨u, hObserve, hRest⟩ := replay_cons.mp h
    cases e with
    | staConnected k =>
      simp only [observe, Option.ite_none_right_eq_some] at hObserve
      obtain ⟨⟨-, rfl⟩, hu⟩ := hObserve
      cases hu
      exact Nat.le_of_succ_le (ih hRest)
    | staDisconnected link =>
      cases link with
      | none =>
        simp only [observe, Option.ite_none_right_eq_some] at hObserve
        cases hObserve.2
        exact ih hRest
      | some k =>
        simp only [observe, Option.ite_none_right_eq_some] at hObserve
        cases hObserve.2
        exact ih hRest
    | staStart =>
      cases hObserve
      exact ih hRest
    | staStop =>
      cases hObserve
      exact ih hRest

/-- A link that is up after the last one was down is a new one. -/
theorem replay_down {n m : Nat} {l : List DriverEvent}
    (h : replay (n, false) l = some (m, true)) : n < m := by
  induction l with
  | nil => cases h
  | cons e l ih =>
    obtain ⟨u, hObserve, hRest⟩ := replay_cons.mp h
    cases e with
    | staConnected k =>
      simp only [observe, true_and, Option.ite_none_right_eq_some] at hObserve
      obtain ⟨rfl, hu⟩ := hObserve
      cases hu
      exact replay_le hRest
    | staDisconnected link =>
      cases link with
      | none =>
        cases hObserve
        exact ih hRest
      | some k => cases hObserve
    | staStart =>
      cases hObserve
      exact ih hRest
    | staStop =>
      cases hObserve
      exact ih hRest

/-- A link that is up for the handler is up, or its disconnected event is pending. -/
theorem replay_live {n m : Nat} {up : Bool} {l : List DriverEvent}
    (h : replay (n, true) l = some (m, up)) :
    (up = true ∧ m = n) ∨ .staDisconnected (some n) ∈ l := by
  induction l with
  | nil =>
    cases h
    exact .inl ⟨rfl, rfl⟩
  | cons e l ih =>
    obtain ⟨u, hObserve, hRest⟩ := replay_cons.mp h
    cases e with
    | staConnected k => cases hObserve
    | staDisconnected link =>
      cases link with
      | none => cases hObserve
      | some k =>
        simp only [observe, true_and, Option.ite_none_right_eq_some] at hObserve
        obtain ⟨rfl, -⟩ := hObserve
        exact .inr List.mem_cons_self
    | staStart =>
      cases hObserve
      exact (ih hRest).imp_right (List.mem_cons_of_mem _)
    | staStop =>
      cases hObserve
      exact (ih hRest).imp_right (List.mem_cons_of_mem _)

/-- As long as no other link came, and this one is up, no event concerns a link. -/
theorem replay_still {n : Nat} {l : List DriverEvent} (h : replay (n, true) l = some (n, true))
    {e : DriverEvent} (he : e ∈ l) : e = .staStart ∨ e = .staStop := by
  induction l with
  | nil => cases he
  | cons x l ih =>
    obtain ⟨u, hObserve, hRest⟩ := replay_cons.mp h
    have hOld (hx : x = .staStart ∨ x = .staStop) (hu : u = (n, true)) :
        e = .staStart ∨ e = .staStop := by
      subst hu
      rcases List.mem_cons.mp he with rfl | hTail
      · exact hx
      · exact ih hRest hTail
    cases x with
    | staConnected k => cases hObserve
    | staDisconnected link =>
      cases link with
      | none => cases hObserve
      | some k =>
        simp only [observe, true_and, Option.ite_none_right_eq_some] at hObserve
        obtain ⟨-, hu⟩ := hObserve
        cases hu
        have hLater := replay_down hRest
        simp at hLater
    | staStart =>
      cases hObserve
      exact hOld (.inl rfl) rfl
    | staStop =>
      cases hObserve
      exact hOld (.inr rfl) rfl

/-- The pending events lead from `v` to the link of the driver. -/
def Queue (v : Nat × Bool) (d : Driver) : Prop := replay v d.pending = some (d.links, d.up)

section Queue

variable {v : Nat × Bool} {d : Driver}

theorem queue_post {e : DriverEvent} (h : Queue v d) (hObserve : ∀ w, observe w e = some w) :
    Queue v (post d e) :=
  (replay_append h).trans (hObserve _)

theorem queue_leave (h : Queue v d) : Queue v (leave d) := by
  unfold leave
  split
  · rename_i hUp
    refine (replay_append h).trans ?_
    show (if d.up = true ∧ d.links = d.links then some (d.links, false) else none) = _
    rw [if_pos ⟨hUp, rfl⟩]
  · rename_i hDown
    split
    · refine (replay_append h).trans ?_
      exact if_pos ((Bool.not_eq_true _).mp hDown)
    · exact h

theorem queue_associate {d' : Driver} (h : Queue v d) (hUp : associate d = some d') :
    Queue v d' := by
  simp only [associate, Option.ite_none_right_eq_some] at hUp
  obtain ⟨⟨-, hDown⟩, hEq⟩ := hUp
  cases hEq
  refine (replay_append h).trans ?_
  exact if_pos ⟨hDown, rfl⟩

theorem queue_espWifiDisconnect {now : Bool} (h : Queue v d) :
    Queue v (espWifiDisconnect d now) := by
  unfold espWifiDisconnect
  split
  · exact queue_leave h
  · exact h

theorem queue_espWifiConnect {ret : EspErr} (h : Queue v d) : Queue v (espWifiConnect d ret) := by
  unfold espWifiConnect
  split
  · exact h
  · exact h

end Queue

/-! ## What the host was told -/

/-- What became of the newest link: nothing yet (or it is over), it was reported, or it is taken
down without a report. -/
inductive Phase
  | quiet
  | told
  | doomed
  deriving DecidableEq

/-- The part of the state that the link events depend on, but for the driver. -/
structure View where
  stationConnected : Bool
  suppressDisconnect : Bool
  lkgStaConnectedEvent : Nat
  sent : List Report
  hidden : List (Option Nat)
  handled : Nat
  openLink : Bool

def view (s : State) : View :=
  { stationConnected := s.stationConnected, suppressDisconnect := s.suppressDisconnect
    lkgStaConnectedEvent := s.lkgStaConnectedEvent, sent := s.sent, hidden := s.hidden
    handled := s.handled, openLink := s.openLink }

/-- The links by the events that were taken. -/
def View.link (v : View) : Nat × Bool := (v.handled, v.openLink)

/-- What was sent and suppressed fits what became of the newest link. -/
structure Told (p : Phase) (v : View) : Prop where
  suppressed : v.suppressDisconnect = true ↔ p = .doomed
  reported : ∀ k, latched (connectedTo k) (disconnectedFrom k) v.sent = true →
    p = .told ∧ k = v.handled
  last : lastReported v.sent = true ↔ p = .told
  sent_le : ∀ k up, .staConnected k up ∈ v.sent → k ≤ v.handled
  live : ∀ k up, .staConnected k up ∈ v.sent → up = true
  doomed : p = .doomed → ∀ up, .staConnected v.handled up ∉ v.sent
  hidden : ∀ l ∈ v.hidden, ∃ k, l = some k ∧ k ≤ v.handled ∧ (k = v.handled → v.openLink = false) ∧
    ∀ up, .staConnected k up ∉ v.sent

/-- The newest link was not reported. -/
def Unsent (v : View) : Prop := ∀ up, .staConnected v.handled up ∉ v.sent

section Told

variable {p : Phase} {v : View}

theorem mem_report {r : Report} {k : Nat} {up : Bool}
    (hMem : .staConnected k up ∈ v.sent ++ [r]) :
    .staConnected k up ∈ v.sent ∨ r = .staConnected k up := by
  rcases List.mem_append.mp hMem with hOld | hNew
  · exact .inl hOld
  · exact .inr (List.mem_singleton.mp hNew).symm

/-- `StaConnected` is sent for the open link, for the first time or again. -/
theorem Told.send (h : Told p v) (hPhase : p ≠ .doomed) (hOpen : v.openLink = true) :
    Told .told { v with sent := v.sent ++ [.staConnected v.handled true] } where
  suppressed := iff_of_false (fun hTrue => hPhase (h.suppressed.mp hTrue)) nofun
  reported k hLatched := by
    rw [latched_append] at hLatched
    refine ⟨rfl, ?_⟩
    split at hLatched
    · rename_i hStart
      exact (beq_iff_eq.mp hStart).symm
    · exact (h.reported k hLatched).2
  last := by
    refine iff_of_true ?_ rfl
    show latched _ _ (v.sent ++ _) = true
    rw [latched_append]
    rfl
  sent_le k up hMem := by
    rcases mem_report hMem with hOld | hNew
    · exact h.sent_le k up hOld
    · cases hNew
      exact Nat.le_refl _
  live k up hMem := by
    rcases mem_report hMem with hOld | hNew
    · exact h.live k up hOld
    · cases hNew
      rfl
  doomed := nofun
  hidden l hMem := by
    obtain ⟨k, hk, hLe, hClosed, hNone⟩ := h.hidden l hMem
    refine ⟨k, hk, hLe, hClosed, fun up hIn => ?_⟩
    rcases mem_report hIn with hOld | hNew
    · exact hNone up hOld
    · cases hNew
      exact Bool.noConfusion ((hClosed rfl).symm.trans hOpen)

/-- Other events do not count. -/
theorem Told.sendOther {r : Report} (h : Told p v) (hOther : r = .staStart ∨ r = .staStop) :
    Told p { v with sent := v.sent ++ [r] } := by
  have hOld {k : Nat} {up : Bool} (hMem : .staConnected k up ∈ v.sent ++ [r]) :
      .staConnected k up ∈ v.sent := by
    rcases mem_report hMem with hOld | hNew
    · exact hOld
    · rcases hOther with rfl | rfl <;> cases hNew
  refine ⟨h.suppressed, fun k hLatched => h.reported k ?_, ?_,
    fun k up hMem => h.sent_le k up (hOld hMem), fun k up hMem => h.live k up (hOld hMem),
    fun hPhase up hMem => h.doomed hPhase up (hOld hMem), fun l hIn => ?_⟩
  · rw [latched_append] at hLatched
    rcases hOther with rfl | rfl <;> exact hLatched
  · rw [← h.last]
    show latched _ _ (v.sent ++ _) = true ↔ _
    rw [latched_append]
    rcases hOther with rfl | rfl <;> exact Iff.rfl
  · obtain ⟨k, hk, hLe, hClosed, hNone⟩ := h.hidden l hIn
    exact ⟨k, hk, hLe, hClosed, fun up hMem => hNone up (hOld hMem)⟩

/-- A new link finds everything quiet. -/
theorem Told.newLink (h : Told .quiet v) :
    Told .quiet { v with handled := v.handled + 1, openLink := true } where
  suppressed := h.suppressed
  reported k hLatched := nomatch (h.reported k hLatched).1
  last := h.last
  sent_le k up hMem := Nat.le_succ_of_le (h.sent_le k up hMem)
  live := h.live
  doomed := nofun
  hidden l hMem := by
    obtain ⟨k, hk, hLe, -, hNone⟩ := h.hidden l hMem
    refine ⟨k, hk, Nat.le_succ_of_le hLe, fun hEq => ?_, hNone⟩
    exact absurd (hEq ▸ hLe) (Nat.not_succ_le_self _)

/-- The disconnected event of the newest link is taken. -/
theorem Told.close (h : Told p v) : Told p { v with openLink := false } := by
  refine { h with hidden := fun l hMem => ?_ }
  obtain ⟨k, hk, hLe, -, hNone⟩ := h.hidden l hMem
  exact ⟨k, hk, hLe, fun _ => rfl, hNone⟩

/-- A new link is taken down without a report. -/
theorem Told.doom (h : Told .quiet v) (hUnsent : Unsent v) :
    Told .doomed { v with suppressDisconnect := true } :=
  { h with suppressed := iff_of_true rfl rfl
           reported := fun k hLatched => nomatch (h.reported k hLatched).1
           last := iff_of_false (fun hTrue => nomatch h.last.mp hTrue) nofun
           doomed := fun _ => hUnsent }

/-- The end of a reported link, or of a connect that failed. -/
theorem Told.disconnect {link : Option Nat} (h : Told p v) (hPhase : p ≠ .doomed)
    (hLink : p = .told → link = some v.handled) :
    Told .quiet { v with sent := v.sent ++ [.staDisconnected link] } := by
  have hOld {k : Nat} {up : Bool} (hMem : .staConnected k up ∈ v.sent ++ [.staDisconnected link]) :
      .staConnected k up ∈ v.sent := by
    rcases mem_report hMem with hOld | hNew
    · exact hOld
    · cases hNew
  refine ⟨iff_of_false (fun hTrue => hPhase (h.suppressed.mp hTrue)) nofun,
    fun k hLatched => ?_, ?_, fun k up hMem => h.sent_le k up (hOld hMem),
    fun k up hMem => h.live k up (hOld hMem), nofun, fun l hIn => ?_⟩
  · rw [latched_append] at hLatched
    simp only [connectedTo, Bool.false_eq_true, if_false] at hLatched
    split at hLatched
    · cases hLatched
    · rename_i hOther
      obtain ⟨hTold, rfl⟩ := h.reported k hLatched
      refine absurd ?_ hOther
      rw [disconnectedFrom, hLink hTold, beq_self_eq_true]
  · refine iff_of_false ?_ nofun
    show ¬ latched _ _ (v.sent ++ _) = true
    rw [latched_append]
    exact Bool.false_ne_true
  · obtain ⟨k, hk, hLe, hClosed, hNone⟩ := h.hidden l hIn
    exact ⟨k, hk, hLe, hClosed, fun up hMem => hNone up (hOld hMem)⟩

/-- The end of a link that was taken down. -/
theorem Told.hide (h : Told .doomed v) (hClosed : v.openLink = false) :
    Told .quiet { v with suppressDisconnect := false
                         hidden := v.hidden ++ [some v.handled] } where
  suppressed := iff_of_false Bool.false_ne_true nofun
  reported k hLatched := nomatch (h.reported k hLatched).1
  last := iff_of_false (fun hTrue => nomatch h.last.mp hTrue) nofun
  sent_le := h.sent_le
  live := h.live
  doomed := nofun
  hidden l hMem := by
    rcases List.mem_append.mp hMem with hOld | hNew
    · exact h.hidden l hOld
    · exact ⟨v.handled, List.mem_singleton.mp hNew, Nat.le_refl _, fun _ => hClosed, h.doomed rfl⟩

end Told

/-! ## How far the event loop has come -/

/-- The newest link that the event loop knows is up. -/
def Up (s : State) : Prop := s.driver.up = true ∧ s.driver.links = s.handled

/-- The branch for `WIFI_EVENT_STA_DISCONNECTED`: the event is about the newest link, or about a
connect that failed. -/
def Ends (p : Phase) (v : View) (link : Option Nat) : Prop :=
  v.openLink = false ∧ ((p = .quiet ∧ link = none) ∨ (p ≠ .quiet ∧ link = some v.handled))

/-- What became of the newest link, by what the event loop does next; `up` is asked of a link that
will be reported. -/
def Fits (p : Phase) (v : View) (up : Prop) : EvtPc → Prop
  | .connTest link => v.openLink = true ∧ link = v.handled ∧ p = .quiet ∧ Unsent v
  | .connApply | .connDisconnect | .connSuppress => v.openLink = true ∧ p = .quiet ∧ Unsent v
  | .connReset link | .connSend link => v.openLink = true ∧ link = v.handled ∧ p = .quiet ∧ up
  | .connKeep link => v.openLink = true ∧ link = v.handled ∧ p = .told ∧ v.stationConnected = false
  | .connDone => v.openLink = true ∧ v.lkgStaConnectedEvent = v.handled ∧ p = .told ∧
    v.stationConnected = false
  | .discTest link | .discApply link | .discClear link | .discDown link _ => Ends p v link
  | .discMark link _ | .discConnect link | .discCheck link =>
    Ends p v link ∧ v.stationConnected = false
  | .discSend link => Ends p v link ∧ v.stationConnected = false ∧ p ≠ .doomed
  | .discUnsuppress link => Ends p v link ∧ v.stationConnected = false ∧ p = .doomed
  | .discAuto => v.openLink = false ∧ p = .quiet ∧ v.stationConnected = false
  | .idle | .startTest | .startMark | .startConnect | .startSend | .stopMark | .stopSend =>
    (v.openLink = true ↔ p ≠ .quiet) ∧ (p = .told → v.stationConnected = true)

theorem Fits.mono {p : Phase} {v : View} {up up' : Prop} {pc : EvtPc} (h : Fits p v up pc)
    (hUp : announces pc = true → up → up') : Fits p v up' pc := by
  cases pc with
  | connReset link => exact ⟨h.1, h.2.1, h.2.2.1, hUp rfl h.2.2.2⟩
  | connSend link => exact ⟨h.1, h.2.1, h.2.2.1, hUp rfl h.2.2.2⟩
  | _ => exact h

/-- A reported link is open, unless its end is being handled. -/
theorem Fits.open_of_told {v : View} {up : Prop} {pc : EvtPc} (h : Fits .told v up pc)
    (hCalm : disconnects pc = false) : v.openLink = true := by
  cases pc with
  | connTest link => exact h.1
  | connApply | connDisconnect | connSuppress => exact h.1
  | connReset link => exact h.1
  | connSend link => exact h.1
  | connKeep link => exact h.1
  | connDone => exact h.1
  | idle | startTest | startMark | startConnect | startSend | stopMark | stopSend =>
    exact h.1.mpr nofun
  | _ => cases hCalm

/-- A link that was reported may be reported again. -/
theorem Fits.resent {v : View} {up : Prop} {pc : EvtPc} {sent : List Report}
    (h : Fits .told v up pc) : Fits .told { v with sent := sent } up pc := by
  cases pc with
  | connTest link => exact nomatch h.2.2.1
  | connApply | connDisconnect | connSuppress => exact nomatch h.2.1
  | _ => exact h

/-- A reported link is open, or its end is being handled. -/
theorem Fits.open_or_ending {v : View} {up : Prop} {pc : EvtPc} (h : Fits .told v up pc) :
    v.openLink = true ∨ ending pc = some v.handled := by
  cases hDisc : disconnects pc with
  | false => exact .inl (h.open_of_told hDisc)
  | true =>
    have hLink {link : Option Nat} (hEnds : Ends .told v link) : link = some v.handled := by
      rcases hEnds.2 with ⟨hQuiet, -⟩ | ⟨-, hSome⟩
      · cases hQuiet
      · exact hSome
    refine .inr ?_
    cases pc with
    | discTest link | discApply link | discClear link => exact hLink h
    | discDown link reconnectPending => exact hLink h
    | discMark link reconnectPending => exact hLink h.1
    | discConnect link | discCheck link => exact hLink h.1
    | discSend link | discUnsuppress link => exact hLink h.1
    | discAuto => exact nomatch h.2.1
    | _ => cases hDisc

/-- The pending events lead to the link of the driver, the host was told what it should know, and a
task that will send `StaConnected` again has a link that is up. -/
structure Inv (p : Phase) (s : State) : Prop where
  queue : Queue (view s).link s.driver
  told : Told p (view s)
  connected : s.stationConnected = true → p = .told ∧ s.lkgStaConnectedEvent = s.handled
  fits : Fits p (view s) (Up s) s.evt
  again : s.req = .connectSend ∨ s.dhcpSends = true →
    s.stationConnected = true ∧ s.openLink = true ∧ Up s

section Frame

variable {cfg : Config} {s t : State} {p : Phase}

/-- A change of the driver, or of what the link events do not depend on. -/
theorem Inv.frame (h : Inv p s) (hView : view t = view s)
    (hQueue : Queue (view s).link t.driver) (hEvt : t.evt = s.evt)
    (hUp : reporting s = true → Up s → Up t)
    (hAgain : t.req = .connectSend ∨ t.dhcpSends = true →
      s.req = .connectSend ∨ s.dhcpSends = true) : Inv p t := by
  have hConnected : t.stationConnected = s.stationConnected := congrArg View.stationConnected hView
  have hLkg : t.lkgStaConnectedEvent = s.lkgStaConnectedEvent :=
    congrArg View.lkgStaConnectedEvent hView
  have hHandled : t.handled = s.handled := congrArg View.handled hView
  have hOpen : t.openLink = s.openLink := congrArg View.openLink hView
  refine ⟨hView ▸ hQueue, hView ▸ h.told, ?_, ?_, fun hNow => ?_⟩
  · rw [hConnected, hLkg, hHandled]
    exact h.connected
  · rw [hView, hEvt]
    refine h.fits.mono fun hAnnounces => hUp ?_
    simp [reporting, hAnnounces]
  · obtain ⟨hConn, hOpenLink, hUpOld⟩ := h.again (hAgain hNow)
    refine ⟨hConnected.trans hConn, hOpen.trans hOpenLink, hUp ?_ hUpOld⟩
    rcases hAgain hNow with hReq | hDhcp
    · simp [reporting, hReq]
    · simp [reporting, hDhcp]

theorem espWifiConnect_up (d : Driver) (ret : EspErr) :
    (espWifiConnect d ret).up = d.up ∧ (espWifiConnect d ret).links = d.links := by
  unfold espWifiConnect
  split <;> exact ⟨rfl, rfl⟩

/-- A link that is down stays down. -/
theorem leave_up {d : Driver} (h : d.up = false) :
    (leave d).up = false ∧ (leave d).links = d.links := by
  unfold leave
  rw [if_neg (by rw [h]; exact Bool.false_ne_true)]
  split <;> exact ⟨h, rfl⟩

theorem Inv.connect (h : Inv p s) (ret : EspErr) (hView : view t = view s)
    (hDriver : t.driver = espWifiConnect s.driver ret) (hEvt : t.evt = s.evt)
    (hAgain : t.req = .connectSend ∨ t.dhcpSends = true →
      s.req = .connectSend ∨ s.dhcpSends = true) : Inv p t := by
  refine h.frame hView (hDriver ▸ queue_espWifiConnect h.queue) hEvt (fun _ hUp => ?_) hAgain
  obtain ⟨hSame, hLinks⟩ := espWifiConnect_up s.driver ret
  have hHandled : t.handled = s.handled := congrArg View.handled hView
  unfold Up
  rw [hDriver, hSame, hLinks, hHandled]
  exact hUp

/-- A link that goes down is not going to be reported. -/
theorem Inv.down (h : Inv p s) (hView : view t = view s)
    (hQueue : Queue (view s).link t.driver) (hEvt : t.evt = s.evt)
    (hQuiet : s.driver.up = true → reporting s = false)
    (hAgain : t.req = .connectSend ∨ t.dhcpSends = true →
      s.req = .connectSend ∨ s.dhcpSends = true) : Inv p t := by
  refine h.frame hView hQueue hEvt (fun hReporting hUp => ?_) hAgain
  exact Bool.noConfusion ((hQuiet hUp.1).symm.trans hReporting)

/-- The link of a task that will send `StaConnected` is up. -/
theorem up_of_queue (hQueue : Queue (s.handled, true) s.driver)
    (hPending : .staDisconnected (some s.handled) ∉ s.driver.pending) : Up s := by
  rcases replay_live hQueue with hUp | hMem
  · exact hUp
  · exact absurd hMem hPending

/-- `station_connected` is found set while no disconnected event is on its way. -/
theorem Inv.up_of_calm (h : Inv p s) (hConnected : s.stationConnected = true)
    (hCalm : calm s = true) : s.openLink = true ∧ Up s := by
  simp only [calm, Bool.and_eq_true, Bool.not_eq_true', List.any_eq_false] at hCalm
  obtain ⟨hPending, hEvt⟩ := hCalm
  obtain ⟨rfl, -⟩ := h.connected hConnected
  have hOpen : s.openLink = true := h.fits.open_of_told hEvt
  have hQueue : Queue (s.handled, true) s.driver := hOpen ▸ h.queue
  exact ⟨hOpen, up_of_queue hQueue fun hMem => absurd rfl (hPending _ hMem)⟩

/-- `StaConnected` says that the link is up. -/
theorem sent_up (hUp : Up s) : (sendStaConnected s s.handled).sent =
    s.sent ++ [.staConnected s.handled true] := by
  have hTrue : (s.driver.up && s.driver.links == s.handled) = true := by
    rw [hUp.1, hUp.2, beq_self_eq_true]
    rfl
  unfold sendStaConnected
  rw [hTrue]

/-- A task sends `StaConnected` again. -/
theorem Inv.sendAgain (h : Inv p s)
    (hNow : s.req = .connectSend ∨ s.dhcpSends = true) :
    Inv p (sendStaConnected s s.lkgStaConnectedEvent) := by
  obtain ⟨hConnected, hOpen, hUp⟩ := h.again hNow
  obtain ⟨rfl, hLkg⟩ := h.connected hConnected
  have hSent : (sendStaConnected s s.handled).sent = s.sent ++ [.staConnected s.handled true] :=
    sent_up hUp
  have hTold : Told .told (view (sendStaConnected s s.handled)) := by
    unfold view
    rw [hSent]
    exact h.told.send nofun hOpen
  rw [hLkg]
  exact ⟨h.queue, hTold, h.connected, h.fits.resent, h.again⟩

end Frame

/-! ## The event loop -/

section Events

variable {cfg : Config} {s t : State} {p : Phase} {r : Results}

/-- No task is going to send `StaConnected` again, as `station_connected` is not set. -/
theorem Inv.not_again (h : Inv p s) (hConnected : s.stationConnected = false) :
    ¬(s.req = .connectSend ∨ s.dhcpSends = true) := fun hNow =>
  Bool.noConfusion (hConnected.symm.trans (h.again hNow).1)

theorem Inv.not_again_of_closed (h : Inv p s) (hClosed : s.openLink = false) :
    ¬(s.req = .connectSend ∨ s.dhcpSends = true) := fun hNow =>
  Bool.noConfusion (hClosed.symm.trans (h.again hNow).2.1)

theorem Inv.unconnected (h : Inv .quiet s) : s.stationConnected = false := by
  by_contra hConnected
  rw [Bool.not_eq_false] at hConnected
  exact nomatch (h.connected hConnected).1

/-- The event loop goes on without a change of what the link events depend on. -/
theorem Inv.goto (h : Inv p s) (hView : view t = view s) (hDriver : t.driver = s.driver)
    (hReq : t.req = s.req) (hDhcp : t.dhcpSends = s.dhcpSends)
    (hFits : Fits p (view s) (Up s) t.evt) : Inv p t := by
  have hUp : Up t = Up s := by
    have hHandled : t.handled = s.handled := congrArg View.handled hView
    unfold Up
    rw [hDriver, hHandled]
  have hConnected : t.stationConnected = s.stationConnected := congrArg View.stationConnected hView
  have hLkg : t.lkgStaConnectedEvent = s.lkgStaConnectedEvent :=
    congrArg View.lkgStaConnectedEvent hView
  have hHandled : t.handled = s.handled := congrArg View.handled hView
  have hOpen : t.openLink = s.openLink := congrArg View.openLink hView
  refine ⟨?_, hView ▸ h.told, ?_, ?_, ?_⟩
  · rw [hView, hDriver]
    exact h.queue
  · rw [hConnected, hLkg, hHandled]
    exact h.connected
  · rw [hView, hUp]
    exact hFits
  · rw [hReq, hDhcp, hConnected, hOpen, hUp]
    exact h.again

/-- The call for the cached configuration does not change the link. -/
theorem applyCached_same (cfg : Config) (s : State) (ok : Bool) :
    view (applyCached cfg s ok).1 = view s ∧
    (applyCached cfg s ok).1.req = s.req ∧ (applyCached cfg s ok).1.dhcpSends = s.dhcpSends ∧
    ∃ c, (applyCached cfg s ok).1.driver = { s.driver with config := c } := by
  unfold applyCached
  split
  · exact ⟨rfl, rfl, rfl, _, rfl⟩
  · exact ⟨rfl, rfl, rfl, s.driver.config, rfl⟩
  · exact ⟨rfl, rfl, rfl, s.driver.config, rfl⟩

/-- The configuration of the driver does not matter. -/
theorem Inv.goto_config (h : Inv p s) {c : Provision} (hView : view t = view s)
    (hDriver : t.driver = { s.driver with config := c }) (hReq : t.req = s.req)
    (hDhcp : t.dhcpSends = s.dhcpSends) (hFits : Fits p (view s) (Up s) t.evt) : Inv p t := by
  have hConfig : Inv p { s with driver := { s.driver with config := c } } :=
    ⟨h.queue, h.told, h.connected, h.fits, h.again⟩
  exact hConfig.goto hView hDriver hReq hDhcp hFits

theorem inv_applyCached {pc : EvtPc} {ok : Bool} (h : Inv p s)
    (hFits : Fits p (view s) (Up s) pc) : Inv p { (applyCached cfg s ok).1 with evt := pc } := by
  obtain ⟨hView, hReq, hDhcp, c, hDriver⟩ := applyCached_same cfg s ok
  exact h.goto_config (t := { (applyCached cfg s ok).1 with evt := pc }) hView hDriver hReq hDhcp
    hFits

/-- The event loop calls `esp_wifi_connect`. -/
theorem Inv.gotoConnect {pc : EvtPc} {ret : EspErr} (h : Inv p s)
    (hFits : Fits p (view s) (Up s) pc) :
    Inv p { s with driver := espWifiConnect s.driver ret, evt := pc } := by
  have hNext : Inv p { s with evt := pc } := h.goto rfl rfl rfl rfl hFits
  exact hNext.connect ret rfl rfl rfl id

/-- A new link is taken down. -/
theorem inv_connSuppress (h : Inv p s) (hEvt : s.evt = .connSuppress) :
    Inv .doomed { s with suppressDisconnect := true, evt := .idle } := by
  have hFits := h.fits
  rw [hEvt] at hFits
  obtain ⟨hOpen, rfl, hUnsent⟩ := hFits
  have hNot : s.stationConnected = false := h.unconnected
  refine ⟨h.queue, h.told.doom hUnsent, fun hTrue => ?_, ⟨iff_of_true hOpen nofun, nofun⟩,
    fun hNow => absurd hNow (h.not_again hNot)⟩
  exact Bool.noConfusion (hNot.symm.trans hTrue)

/-- A new link is reported. -/
theorem inv_connSend {link : Nat} (h : Inv p s) (hEvt : s.evt = .connSend link) :
    Inv .told { sendStaConnected s link with evt := .connKeep link } := by
  have hFits := h.fits
  rw [hEvt] at hFits
  obtain ⟨hOpen, hLink, rfl, hUp⟩ := hFits
  have hLink' : link = s.handled := hLink
  subst hLink'
  have hNot : s.stationConnected = false := h.unconnected
  have hTold : Told .told (view (sendStaConnected s s.handled)) := by
    unfold view
    rw [sent_up hUp]
    exact h.told.send nofun hOpen
  refine ⟨h.queue, hTold, fun hTrue => ?_, ⟨hOpen, rfl, rfl, hNot⟩,
    fun hNow => absurd hNow (h.not_again hNot)⟩
  exact Bool.noConfusion (hNot.symm.trans hTrue)

theorem inv_connKeep {link : Nat} (h : Inv p s) (hEvt : s.evt = .connKeep link) :
    Inv p { s with lkgStaConnectedEvent := link, evt := .connDone } := by
  have hFits := h.fits
  rw [hEvt] at hFits
  obtain ⟨hOpen, hLink, rfl, hNot⟩ := hFits
  refine ⟨h.queue, { h.told with }, fun _ => ⟨rfl, hLink⟩, ⟨hOpen, hLink, rfl, hNot⟩,
    fun hNow => absurd hNow (h.not_again hNot)⟩

theorem inv_connDone (h : Inv p s) (hEvt : s.evt = .connDone) :
    Inv p { s with stationConnected := true, evt := .idle } := by
  have hFits := h.fits
  rw [hEvt] at hFits
  obtain ⟨hOpen, hLkg, rfl, hNot⟩ := hFits
  refine ⟨h.queue, { h.told with }, fun _ => ⟨rfl, hLkg⟩, ⟨iff_of_true hOpen nofun, fun _ => rfl⟩,
    fun hNow => absurd hNow (h.not_again hNot)⟩

theorem inv_discDown {link : Option Nat} {reconnectPending : Bool} (h : Inv p s)
    (hEvt : s.evt = .discDown link reconnectPending) :
    Inv p { s with stationConnected := false, evt := .discMark link reconnectPending } := by
  have hFits := h.fits
  rw [hEvt] at hFits
  exact ⟨h.queue, { h.told with }, nofun, ⟨hFits, rfl⟩,
    fun hNow => absurd hNow (h.not_again_of_closed hFits.1)⟩

/-- The end of a link is reported. -/
theorem inv_discSend {link : Option Nat} (h : Inv p s) (hEvt : s.evt = .discSend link) :
    Inv .quiet { s with sent := s.sent ++ [.staDisconnected link], evt := .discAuto } := by
  have hFits := h.fits
  rw [hEvt] at hFits
  obtain ⟨⟨hClosed, hLink⟩, hNot, hPhase⟩ := hFits
  have hSame : p = .told → link = some s.handled := by
    rintro rfl
    rcases hLink with ⟨hQuiet, -⟩ | ⟨-, hSome⟩
    · cases hQuiet
    · exact hSome
  refine ⟨h.queue, h.told.disconnect hPhase hSame, fun hTrue => ?_, ⟨hClosed, rfl, hNot⟩,
    fun hNow => absurd hNow (h.not_again hNot)⟩
  exact Bool.noConfusion (hNot.symm.trans hTrue)

/-- The end of a link that was taken down is not reported. -/
theorem inv_discUnsuppress {link : Option Nat} (h : Inv p s)
    (hEvt : s.evt = .discUnsuppress link) :
    Inv .quiet { s with suppressDisconnect := false, hidden := s.hidden ++ [link]
                        evt := .idle } := by
  have hFits := h.fits
  rw [hEvt] at hFits
  obtain ⟨⟨hClosed, hLink⟩, hNot, rfl⟩ := hFits
  have hSome : link = some s.handled := by
    rcases hLink with ⟨hQuiet, -⟩ | ⟨-, hSome⟩
    · cases hQuiet
    · exact hSome
  subst hSome
  have hIdle : s.openLink = true ↔ Phase.quiet ≠ .quiet :=
    iff_of_false (fun hTrue => Bool.noConfusion (hClosed.symm.trans hTrue)) fun hNe => hNe rfl
  refine ⟨h.queue, h.told.hide hClosed, fun hTrue => ?_, ⟨hIdle, nofun⟩,
    fun hNow => absurd hNow (h.not_again hNot)⟩
  exact Bool.noConfusion (hNot.symm.trans hTrue)

/-- An event that does not concern a link is sent. -/
theorem inv_sendOther {e : Report} (h : Inv p s) (hOther : e = .staStart ∨ e = .staStop)
    (hFits : Fits p (view s) (Up s) .idle) :
    Inv p { s with sent := s.sent ++ [e], evt := .idle } :=
  ⟨h.queue, h.told.sendOther hOther, h.connected, hFits, h.again⟩

theorem inv_discAuto {ret : EspErr} (h : Inv p s) (hEvt : s.evt = .discAuto) :
    Inv p { autoReconnect cfg s ret with evt := .idle } := by
  have hFits := h.fits
  rw [hEvt] at hFits
  obtain ⟨hClosed, rfl, -⟩ := hFits
  have hClosed' : s.openLink = false := hClosed
  have hIdle : Fits .quiet (view s) (Up s) .idle := by
    refine ⟨iff_of_false (fun hTrue => ?_) fun hNe => hNe rfl, nofun⟩
    exact Bool.noConfusion (hClosed'.symm.trans hTrue)
  unfold autoReconnect
  split
  · exact h.goto rfl rfl rfl rfl hIdle
  · split
    · have hConnect : Inv .quiet { s with driver := espWifiConnect s.driver ret, evt := .idle } :=
        h.gotoConnect hIdle
      exact hConnect.goto rfl rfl rfl rfl hConnect.fits
    · exact h.goto rfl rfl rfl rfl hIdle

/-- A step of the event loop. -/
theorem inv_evtExec (h : Inv p s) (hTimely : Timely s (.evt r)) :
    ∃ p', Inv p' (evtExec cfg s r s.evt) := by
  simp only [Timely] at hTimely
  have hFits := h.fits
  cases hEvt : s.evt <;> rw [hEvt] at hFits
  case idle => exact ⟨p, h⟩
  case connTest link =>
    obtain ⟨hOpen, hLink, rfl, hUnsent⟩ := hFits
    refine ⟨.quiet, ?_⟩
    simp only [evtExec]
    split
    · exact h.goto rfl rfl rfl rfl ⟨hOpen, rfl, hUnsent⟩
    · rename_i hNone
      have hOpen' : s.openLink = true := hOpen
      have hQueue : Queue (s.handled, true) s.driver := hOpen' ▸ h.queue
      have hPending : .staDisconnected (some s.handled) ∉ s.driver.pending := by
        have hLink' : link = s.handled := hLink
        subst hLink'
        rw [hEvt] at hTimely
        exact hTimely ((Bool.not_eq_true _).mp hNone)
      exact h.goto rfl rfl rfl rfl ⟨hOpen, hLink, rfl, up_of_queue hQueue hPending⟩
  case connApply => exact ⟨p, inv_applyCached h hFits⟩
  case connDisconnect =>
    obtain ⟨hOpen, rfl, hUnsent⟩ := hFits
    have hNot := h.not_again h.unconnected
    have hNext : Inv .quiet { s with evt := .connSuppress } :=
      h.goto rfl rfl rfl rfl ⟨hOpen, rfl, hUnsent⟩
    refine ⟨.quiet, hNext.down rfl (queue_espWifiDisconnect h.queue) rfl (fun _ => ?_) id⟩
    simp only [not_or, Bool.not_eq_true] at hNot
    simp [reporting, announces, hNot.1, hNot.2]
  case connSuppress => exact ⟨.doomed, inv_connSuppress h hEvt⟩
  case connReset link => exact ⟨p, h.goto rfl rfl rfl rfl hFits⟩
  case connSend link => exact ⟨.told, inv_connSend h hEvt⟩
  case connKeep link => exact ⟨p, inv_connKeep h hEvt⟩
  case connDone => exact ⟨p, inv_connDone h hEvt⟩
  case discTest link =>
    refine ⟨p, h.goto rfl rfl rfl rfl ?_⟩
    simp only [evtExec]
    split <;> exact hFits
  case discApply link =>
    refine ⟨p, ?_⟩
    simp only [evtExec]
    split <;> exact inv_applyCached h hFits
  case discClear link => exact ⟨p, h.goto rfl rfl rfl rfl hFits⟩
  case discDown link reconnectPending => exact ⟨p, inv_discDown h hEvt⟩
  case discMark link reconnectPending =>
    refine ⟨p, h.goto rfl rfl rfl rfl ?_⟩
    simp only [evtExec]
    split <;> exact hFits
  case discConnect link => exact ⟨p, h.gotoConnect hFits⟩
  case discCheck link =>
    refine ⟨p, h.goto rfl rfl rfl rfl ?_⟩
    have hDoomed : s.suppressDisconnect = true ↔ p = .doomed := h.told.suppressed
    simp only [evtExec]
    split
    · rename_i hSuppress
      exact ⟨hFits.1, hFits.2, hDoomed.mp hSuppress⟩
    · rename_i hSuppress
      exact ⟨hFits.1, hFits.2, fun hPhase => hSuppress (hDoomed.mpr hPhase)⟩
  case discSend link => exact ⟨.quiet, inv_discSend h hEvt⟩
  case discAuto => exact ⟨p, inv_discAuto h hEvt⟩
  case discUnsuppress link => exact ⟨.quiet, inv_discUnsuppress h hEvt⟩
  case startTest =>
    refine ⟨p, h.goto rfl rfl rfl rfl ?_⟩
    simp only [evtExec]
    split
    · exact hFits
    · split <;> exact hFits
  case startMark => exact ⟨p, h.goto rfl rfl rfl rfl hFits⟩
  case startConnect => exact ⟨p, h.gotoConnect hFits⟩
  case startSend => exact ⟨p, inv_sendOther h (.inl rfl) hFits⟩
  case stopMark => exact ⟨p, h.goto rfl rfl rfl rfl hFits⟩
  case stopSend => exact ⟨p, inv_sendOther h (.inr rfl) hFits⟩

/-- The event loop takes the oldest event, which fits the links that it knows. -/
theorem inv_take {e : DriverEvent} {rest : List DriverEvent} (h : Inv p s) (hIdle : s.evt = .idle)
    (hPending : s.driver.pending = e :: rest) :
    Inv p (takeEvent { s with driver := { s.driver with pending := rest } } e) := by
  have hFits := h.fits
  rw [hIdle] at hFits
  obtain ⟨hOpen, hTold⟩ := hFits
  have hQueue := h.queue
  unfold Queue at hQueue
  rw [hPending] at hQueue
  obtain ⟨w, hObserve, hRest⟩ := replay_cons.mp hQueue
  change observe (s.handled, s.openLink) e = some w at hObserve
  cases e with
  | staConnected k =>
    simp only [observe, Option.ite_none_right_eq_some] at hObserve
    obtain ⟨⟨hClosed, rfl⟩, hw⟩ := hObserve
    cases hw
    obtain rfl : p = .quiet := by
      by_contra hPhase
      exact Bool.noConfusion (hClosed.symm.trans (hOpen.mpr hPhase))
    have hNot : s.stationConnected = false := h.unconnected
    refine ⟨hRest, h.told.newLink, fun hTrue => ?_, ⟨rfl, rfl, rfl, fun up hMem => ?_⟩,
      fun hNow => absurd hNow (h.not_again hNot)⟩
    · exact Bool.noConfusion (hNot.symm.trans hTrue)
    · exact Nat.not_succ_le_self _ (h.told.sent_le _ up hMem)
  | staDisconnected link =>
    have hLink : (p = .quiet ∧ link = none) ∨ (p ≠ .quiet ∧ link = some s.handled) := by
      cases link with
      | none =>
        simp only [observe, Option.ite_none_right_eq_some] at hObserve
        refine .inl ⟨?_, rfl⟩
        by_contra hPhase
        exact Bool.noConfusion (hObserve.1.symm.trans (hOpen.mpr hPhase))
      | some k =>
        simp only [observe, Option.ite_none_right_eq_some] at hObserve
        obtain ⟨⟨hTrue, rfl⟩, -⟩ := hObserve
        exact .inr ⟨hOpen.mp hTrue, rfl⟩
    have hNext : w = (s.handled, false) := by
      cases link with
      | none =>
        simp only [observe, Option.ite_none_right_eq_some] at hObserve
        obtain ⟨hFalse, hw⟩ := hObserve
        cases hw
        exact congrArg (Prod.mk _) hFalse
      | some k =>
        simp only [observe, Option.ite_none_right_eq_some] at hObserve
        exact (Option.some.inj hObserve.2).symm
    subst hNext
    refine ⟨hRest, h.told.close, h.connected, ⟨rfl, hLink⟩, fun hNow => ?_⟩
    -- a link that will be reported again is up, and its disconnected event is not there
    obtain ⟨-, hTrue, hUp, hLinks⟩ := h.again hNow
    have hStill : replay (s.handled, true) (.staDisconnected link :: rest) =
        some (s.handled, true) := by
      have hAll : replay (s.handled, s.openLink) (.staDisconnected link :: rest) =
        some (s.driver.links, s.driver.up) := hQueue
      rw [hTrue, hUp, hLinks] at hAll
      exact hAll
    rcases replay_still hStill List.mem_cons_self with hOther | hOther <;> cases hOther
  | staStart =>
    cases hObserve
    exact ⟨hRest, h.told, h.connected, ⟨hOpen, hTold⟩, h.again⟩
  | staStop =>
    cases hObserve
    exact ⟨hRest, h.told, h.connected, ⟨hOpen, hTold⟩, h.again⟩

end Events

/-! ## One step -/

section Steps

variable {cfg : Config} {s s' : State} {p : Phase} {a : Action} {r : Results}

/-- A task finds `station_connected` set, and will send `StaConnected`. -/
theorem Inv.beginAgain {t : State} (h : Inv p s) (hConnected : s.stationConnected = true)
    (hCalm : calm s = true) (hView : view t = view s) (hDriver : t.driver = s.driver)
    (hEvt : t.evt = s.evt) : Inv p t := by
  obtain ⟨hOpen, hUp⟩ := h.up_of_calm hConnected hCalm
  have hQuietly : Inv p { t with req := .idle, dhcpSends := false } := by
    refine h.frame hView ?_ hEvt (fun _ hOld => ?_) ?_
    · exact hDriver ▸ h.queue
    · have hHandled : t.handled = s.handled := congrArg View.handled hView
      unfold Up at hOld ⊢
      dsimp only
      rw [hDriver, hHandled]
      exact hOld
    · rintro (hReq | hDhcp)
      · cases hReq
      · cases hDhcp
  refine ⟨hQuietly.queue, hQuietly.told, hQuietly.connected, hQuietly.fits, fun _ => ?_⟩
  have hHandled : t.handled = s.handled := congrArg View.handled hView
  refine ⟨(congrArg View.stationConnected hView).trans hConnected,
    (congrArg View.openLink hView).trans hOpen, ?_⟩
  unfold Up
  rw [hDriver, hHandled]
  exact hUp

theorem inv_reqExec (h : Inv p s) (hTimely : Timely s (.req r)) :
    Inv p (reqExec cfg s r s.req) := by
  simp only [Timely] at hTimely
  -- a step that leaves the link alone and does not lead to a report
  have hPlain {t : State} (hView : view t = view s) (hQueue : Queue (view s).link t.driver)
      (hEvt : t.evt = s.evt) (hUp : Up s → Up t) (hReq : t.req ≠ .connectSend)
      (hDhcp : t.dhcpSends = s.dhcpSends) : Inv p t :=
    h.frame hView hQueue hEvt (fun _ => hUp) fun hNow => .inr (hDhcp ▸ hNow.resolve_left hReq)
  cases hPc : s.req with
  | idle => exact h
  | setTest c =>
    refine hPlain rfl h.queue rfl id ?_ rfl
    simp only [reqExec]
    split <;> nofun
  | setApply c =>
    simp only [reqExec]
    split <;> exact hPlain rfl h.queue rfl id nofun rfl
  | setCopy c => exact hPlain rfl h.queue rfl id nofun rfl
  | setCopyRest c => exact hPlain rfl h.queue rfl id nofun rfl
  | setFlag c => exact hPlain rfl h.queue rfl id nofun rfl
  | setClear c => exact hPlain rfl h.queue rfl id nofun rfl
  | connectGet =>
    simp only [reqExec]
    (repeat' split) <;> exact hPlain rfl h.queue rfl id nofun rfl
  | connectTest =>
    rw [hPc] at hTimely
    simp only [reqExec]
    split
    · rename_i hConnected
      exact h.beginAgain hConnected (hTimely hConnected) rfl rfl rfl
    · exact hPlain rfl h.queue rfl id nofun rfl
  | connectMark => exact hPlain rfl h.queue rfl id nofun rfl
  | connectCall =>
    have hUp : Up s → Up { s with driver := espWifiConnect s.driver r.connectRet } := by
      obtain ⟨hSame, hLinks⟩ := espWifiConnect_up s.driver r.connectRet
      rintro ⟨hOld, hHandled⟩
      exact ⟨hSame.trans hOld, hLinks.trans hHandled⟩
    simp only [reqExec]
    split <;> exact hPlain rfl (queue_espWifiConnect h.queue) rfl hUp nofun rfl
  | connectFailed ret => exact hPlain rfl h.queue rfl id nofun rfl
  | connectSend =>
    have hSent : Inv p (sendStaConnected s s.lkgStaConnectedEvent) := h.sendAgain (.inl hPc)
    exact hSent.frame rfl hSent.queue rfl (fun _ hUp => hUp) fun hNow =>
      .inr (hNow.resolve_left nofun)
  | disconnect =>
    rw [hPc] at hTimely
    simp only [reqExec]
    cases hNow : (r.disconnectRet == .espOk && r.disconnectNow) with
    | false => exact hPlain rfl h.queue rfl id nofun rfl
    | true =>
      obtain ⟨hRet, hGone⟩ := Bool.and_eq_true_iff.mp hNow
      refine h.down rfl (queue_espWifiDisconnect h.queue) rfl (fun hUp => ?_) fun hAgain =>
        .inr (hAgain.resolve_left nofun)
      exact hTimely hUp (beq_iff_eq.mp hRet) hGone

theorem inv_serve {pc : ReqPc} (h : Inv p s) (hServe : serve s pc = some s')
    (hPc : pc ≠ .connectSend) : Inv p s' := by
  simp only [serve, Option.ite_none_right_eq_some] at hServe
  cases hServe.2
  exact h.frame rfl h.queue rfl (fun _ hUp => hUp) fun hNow => .inr (hNow.resolve_left hPc)

theorem inv_step (h : Inv p s) (hTimely : Timely s a) (hStep : step cfg s a = some s') :
    ∃ p', Inv p' s' := by
  cases a with
  | setConfig config =>
    obtain ⟨t, hServe, rfl⟩ := Option.map_eq_some_iff.mp hStep
    have hServed : Inv p t := inv_serve h hServe nofun
    exact ⟨p, hServed.frame rfl hServed.queue rfl (fun _ hUp => hUp) id⟩
  | wifiConnect => exact ⟨p, inv_serve h hStep nofun⟩
  | wifiDisconnect => exact ⟨p, inv_serve h hStep nofun⟩
  | req r =>
    simp only [step, Option.ite_none_left_eq_some] at hStep
    cases hStep.2
    exact ⟨p, inv_reqExec h hTimely⟩
  | dhcpTest =>
    simp only [step, Option.ite_none_left_eq_some] at hStep
    cases hStep.2
    refine ⟨p, ?_⟩
    by_cases hConnected : s.stationConnected = true
    · exact h.beginAgain hConnected (hTimely hConnected) rfl rfl rfl
    · exact h.frame rfl h.queue rfl (fun _ hUp => hUp) fun hNow =>
        hNow.imp_right fun hDhcp => absurd hDhcp hConnected
  | dhcpSend =>
    simp only [step, Option.ite_none_right_eq_some] at hStep
    obtain ⟨hDhcp, hEq⟩ := hStep
    cases hEq
    have hSent : Inv p (sendStaConnected s s.lkgStaConnectedEvent) := h.sendAgain (.inr hDhcp)
    exact ⟨p, hSent.frame rfl hSent.queue rfl (fun _ hUp => hUp) fun hNow =>
      hNow.imp_right fun hNone => nomatch hNone⟩
  | associate =>
    obtain ⟨d, hAssociate, rfl⟩ := Option.map_eq_some_iff.mp hStep
    refine ⟨p, h.frame rfl (queue_associate h.queue hAssociate) rfl (fun _ hUp => ?_) id⟩
    simp only [associate, Option.ite_none_right_eq_some] at hAssociate
    exact Bool.noConfusion (hAssociate.1.2.symm.trans hUp.1)
  | leave =>
    cases hStep
    exact ⟨p, h.down rfl (queue_leave h.queue) rfl hTimely id⟩
  | start =>
    cases hStep
    exact ⟨p, h.frame rfl (queue_post h.queue fun _ => rfl) rfl (fun _ hUp => hUp) id⟩
  | stop =>
    cases hStep
    exact ⟨p, h.down rfl (queue_post (queue_leave h.queue) fun _ => rfl) rfl hTimely id⟩
  | take =>
    simp only [step, Option.ite_none_right_eq_some] at hStep
    obtain ⟨hIdle, hStep⟩ := hStep
    split at hStep
    · cases hStep
    · rename_i e rest hPending
      cases hStep
      exact ⟨p, inv_take h hIdle hPending⟩
  | evt r =>
    simp only [step, Option.ite_none_left_eq_some] at hStep
    cases hStep.2
    exact inv_evtExec h hTimely

theorem boot_inv (config : WifiConfig) : Inv .quiet (boot config) where
  queue := rfl
  told := ⟨iff_of_false Bool.false_ne_true nofun, nofun, iff_of_false Bool.false_ne_true nofun,
    nofun, nofun, nofun, nofun⟩
  connected := nofun
  fits := ⟨iff_of_false Bool.false_ne_true fun hNe => hNe rfl, nofun⟩
  again := by
    rintro (hReq | hDhcp)
    · cases hReq
    · cases hDhcp

/-- A reported link whose disconnected event was handled was reported to end. -/
theorem Inv.ended (h : Inv p s) {past rest : List Report} {k : Nat} {up : Bool}
    (hSent : s.sent = past ++ .staConnected k up :: rest) (hOver : Over s k) :
    .staDisconnected (some k) ∈ rest := by
  by_contra hNone
  have hLatched : latched (connectedTo k) (disconnectedFrom k) (view s).sent = true := by
    refine latched_iff.mpr ⟨past, _, rest, hSent, beq_self_eq_true k, fun y hMem => ?_⟩
    by_contra hStop
    rw [Bool.not_eq_false] at hStop
    cases y with
    | staDisconnected link => exact hNone (beq_iff_eq.mp hStop ▸ hMem)
    | _ => cases hStop
  obtain ⟨rfl, hk⟩ := h.told.reported k hLatched
  have hk' : k = s.handled := hk
  subst hk'
  obtain ⟨hDown, hPending, hEnding⟩ := hOver
  rcases h.fits.open_or_ending with hOpen | hHandled
  · have hOpen' : s.openLink = true := hOpen
    have hQueue : Queue (s.handled, true) s.driver := hOpen' ▸ h.queue
    exact hDown (up_of_queue hQueue hPending)
  · exact hEnding hHandled

/-- As long as no link ends while a task is going to report it, what the host is told about the
links is so. -/
theorem truthful {config : WifiConfig} (hRun : Reaches (step cfg) Timely (boot config) s) :
    Truthful s := by
  obtain ⟨p, h⟩ : ∃ p, Inv p s :=
    hRun.invariant (I := fun s => ∃ p, Inv p s) ⟨.quiet, boot_inv config⟩
      fun _ _ _ ⟨_, hInv⟩ hTimely hStep => inv_step hInv hTimely hStep
  refine ⟨h.told.live, fun _ _ _ _ hSent hOver => h.ended hSent hOver, fun l hMem => ?_,
    fun _ hIdle => ?_⟩
  · obtain ⟨k, hk, -, -, hNone⟩ := h.told.hidden l hMem
    exact ⟨k, hk, hNone⟩
  · have hFits := h.fits
    rw [hIdle] at hFits
    rw [Bool.eq_iff_iff]
    constructor
    · intro hConnected
      exact h.told.last.mpr (h.connected hConnected).1
    · intro hLast
      exact hFits.2 (h.told.last.mp hLast)

end Steps

/-- Every configuration is taken. -/
def anyConfig : Config :=
  { valid := fun _ => true, autoConnectOnStaStart := false, autoConnectOnStaDisconnect := false
    autoReconnectMaxRetry := 0 }

def home : WifiConfig := ⟨[104], []⟩

/-- The first link is taken down for a new configuration, the second is reported, reported again,
and ends. -/
theorem truthful_second_link :
    ∃ s, Reaches (step anyConfig) Timely (boot home) s ∧
      s.sent = [.staConnected 2 true, .staConnected 2 true, .staDisconnected (some 2)] ∧
      s.hidden = [some 1] ∧ Truthful s := by
  obtain ⟨s, hs, hOut⟩ := Option.map_eq_some_iff.mp
    (show (runGuarded (step anyConfig) Timely (boot home) ([.wifiConnect] ++ reqs 4 ++
      [.setConfig home] ++ reqs 4 ++ [.associate, .take] ++ evts 4 ++ [.take] ++ evts 8 ++
      [.associate, .take] ++ evts 5 ++ [.wifiConnect] ++ reqs 3 ++ [.leave, .take] ++
      evts 6)).map (fun s => (s.sent, s.hidden)) =
        some ([.staConnected 2 true, .staConnected 2 true, .staDisconnected (some 2)],
          [some 1]) by decide +kernel)
  obtain ⟨hSent, hHidden⟩ := Prod.mk.inj hOut
  exact ⟨s, .of_run hs, hSent, hHidden, truthful (.of_run hs)⟩

/-- A connect request finds `station_connected` set; the link ends and its end is reported, and only
then is `StaConnected` sent. -/
theorem not_truthful :
    ¬ ∀ s, Reaches (step anyConfig) anyStep (boot home) s → Truthful s := by
  intro h
  obtain ⟨s, hs, hSent⟩ := Option.map_eq_some_iff.mp
    (show (run (step anyConfig) (boot home) ([.wifiConnect] ++ reqs 4 ++ [.associate, .take] ++
      evts 5 ++ [.wifiConnect] ++ reqs 2 ++ [.leave, .take] ++ evts 6 ++ reqs 1)).map State.sent =
        some [.staConnected 1 true, .staDisconnected (some 1), .staConnected 1 false]
      by decide +kernel)
  have hLive := (h s (.of_plain_run hs)).live 1 false (by rw [hSent]; decide)
  cases hLive

end EspHosted.Wifi.LinkEvents
