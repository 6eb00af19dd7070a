import EspHosted.Lib.Machine
import Mathlib.Logic.Function.Basic

/-!
# The cache of open ports

`is_local_tcp_port_open` and `is_local_udp_port_open` keep the result of their last scan of the
pcb list, for one port, and answer from it for 1000 units of the clock. But an answer from the
cache also moves `last_check_time`, so a port that is asked for often enough is never looked up
again.

* `call_current_iff`: an answer is current exactly if it is not taken from a scan that is more
  than 1000 units old;
* `answers_current`: so in runs without such calls every answer is current.
-/

namespace EspHosted.NwSplit.PortCache

open Machine

/-! ## Model -/

inductive Proto
  | tcp
  | udp
  deriving DecidableEq

/-- `tcp_cache` and `udp_cache`. -/
structure Cache where
  lastCheckTime : Nat
  lastResult : Bool
  lastPort : Nat

/-- The local ports of `tcp_listen_pcbs` and `udp_pcbs`. -/
abbrev Pcbs := Proto → List Nat

/-- The pcb lists at a time of the clock. -/
structure Moment where
  time : Nat
  pcbs : Pcbs

/-- A call with its result, the moments until then, and the time of the scan that the result is
from. -/
structure Answer where
  proto : Proto
  port : Nat
  time : Nat
  result : Bool
  scannedAt : Nat
  moments : List Moment

/-- `timer` is `esp_timer_get_time`. The caches start with zeros, as if port 0 had been looked up
before there was a socket. -/
structure State where
  timer : Nat
  pcbs : Pcbs
  cache : Proto → Cache
  scannedAt : Proto → Nat
  moments : List Moment
  answers : List Answer

def noSockets : Pcbs := fun _ => []

def boot : State :=
  { timer := 0, pcbs := noSockets, cache := fun _ => ⟨0, false, 0⟩, scannedAt := fun _ => 0,
    moments := [⟨0, noSockets⟩], answers := [] }

/-- The clock, about milliseconds. -/
def State.now (s : State) : Nat := s.timer >>> 10

/-- The loop over the pcb list. -/
def scan (port : Nat) : List Nat → Bool
  | [] => false
  | localPort :: pcbs => if localPort = port then true else scan port pcbs

def Cache.hit (c : Cache) (now port : Nat) : Bool :=
  c.lastPort = port && now - c.lastCheckTime < 1000

/-- The result, and the cache behind the call. -/
def isLocalPortOpen (now port : Nat) (pcbs : List Nat) (c : Cache) : Bool × Cache :=
  if c.hit now port then (c.lastResult, { c with lastCheckTime := now })
  else
    let found := scan port pcbs
    (found, { lastCheckTime := now, lastResult := found, lastPort := port })

/-- `is_local_tcp_port_open`. -/
def isLocalTcpPortOpen (s : State) (port : Nat) : Bool × Cache :=
  isLocalPortOpen s.now port (s.pcbs .tcp) (s.cache .tcp)

/-- `is_local_udp_port_open`. -/
def isLocalUdpPortOpen (s : State) (port : Nat) : Bool × Cache :=
  isLocalPortOpen s.now port (s.pcbs .udp) (s.cache .udp)

inductive Action
  | tick (micros : Nat)
  | openPort (p : Proto) (port : Nat)
  | closePort (p : Proto) (port : Nat)
  | call (p : Proto) (port : Nat)

def State.record (s : State) : State := { s with moments := ⟨s.now, s.pcbs⟩ :: s.moments }

def tick (s : State) (micros : Nat) : State := State.record { s with timer := s.timer + micros }

/-- A pcb is put in front of its list. -/
def openPort (s : State) (p : Proto) (port : Nat) : State :=
  State.record { s with pcbs := Function.update s.pcbs p (port :: s.pcbs p) }

def closePort (s : State) (p : Proto) (port : Nat) : State :=
  State.record { s with pcbs := Function.update s.pcbs p ((s.pcbs p).erase port) }

/-- The time of the scan that a call answers from. -/
def State.scanTime (s : State) (p : Proto) (port : Nat) : Nat :=
  if (s.cache p).hit s.now port then s.scannedAt p else s.now

def call (s : State) (p : Proto) (port : Nat) : State :=
  let (result, cache) := match p with
    | .tcp => isLocalTcpPortOpen s port
    | .udp => isLocalUdpPortOpen s port
  let scannedAt := s.scanTime p port
  { s with
    cache := Function.update s.cache p cache
    scannedAt := Function.update s.scannedAt p scannedAt
    answers := ⟨p, port, s.now, result, scannedAt, s.moments⟩ :: s.answers }

def step (s : State) : Action → Option State
  | .tick micros => some (tick s micros)
  | .openPort p port => some (openPort s p port)
  | .closePort p port => some (closePort s p port)
  | .call p port => some (call s p port)

/-! ## Answers -/

/-- A scan at some moment of the last 1000 units gives the result, and the one that was answered
from is not older. -/
structure Answer.Current (a : Answer) : Prop where
  agrees : ∃ m ∈ a.moments, m.time ≤ a.time ∧ a.time ≤ m.time + 1000 ∧
    scan a.port (m.pcbs a.proto) = a.result
  window : a.time ≤ a.scannedAt + 1000

/-- A call is not answered from a scan of more than 1000 units ago. -/
def Fresh (s : State) : Action → Prop
  | .call p port => (s.cache p).hit s.now port = true → s.now ≤ s.scannedAt p + 1000
  | _ => True

instance (s : State) : (a : Action) → Decidable (Fresh s a)
  | .call p port =>
    inferInstanceAs (Decidable ((s.cache p).hit s.now port = true → s.now ≤ s.scannedAt p + 1000))
  | .tick _ | .openPort .. | .closePort .. => .isTrue trivial

/-- The caches hold the results of scans, and the present moment is recorded. -/
structure Inv (s : State) : Prop where
  now : ⟨s.now, s.pcbs⟩ ∈ s.moments
  scanned : ∀ p, ∃ m ∈ s.moments, m.time = s.scannedAt p ∧
    scan (s.cache p).lastPort (m.pcbs p) = (s.cache p).lastResult
  past : ∀ p, s.scannedAt p ≤ s.now

variable {s s' : State} {p : Proto} {port : Nat}

theorem boot_inv : Inv boot :=
  ⟨List.mem_singleton.mpr rfl, fun _ => ⟨⟨0, noSockets⟩, List.mem_singleton.mpr rfl, rfl, rfl⟩,
    fun _ => Nat.zero_le _⟩

/-- Time goes on or a pcb list changes, and that moment is recorded. -/
theorem record_inv (h : Inv s) {t : State} (hCache : t.cache = s.cache)
    (hScanned : t.scannedAt = s.scannedAt) (hMoments : t.moments = s.moments)
    (hNow : s.now ≤ t.now) : Inv t.record := by
  refine ⟨List.mem_cons_self, fun p => ?_, fun p => ?_⟩
  · obtain ⟨m, hMem, hTime, hScan⟩ := h.scanned p
    rw [← hCache, ← hScanned] at *
    refine ⟨m, List.mem_cons_of_mem _ (by rw [hMoments]; exact hMem), hTime, hScan⟩
  · have hPast := h.past p
    rw [← hScanned] at hPast
    exact Nat.le_trans hPast hNow

theorem tick_inv (h : Inv s) (micros : Nat) : Inv (tick s micros) := by
  refine record_inv h rfl rfl rfl ?_
  simp only [State.now, Nat.shiftRight_eq_div_pow]
  exact Nat.div_le_div_right (Nat.le_add_right _ _)

/-- What a call answers and keeps. -/
theorem call_eq (s : State) (p : Proto) (port : Nat) : call s p port =
    { s with
      cache := Function.update s.cache p (isLocalPortOpen s.now port (s.pcbs p) (s.cache p)).2
      scannedAt := Function.update s.scannedAt p (s.scanTime p port)
      answers := ⟨p, port, s.now, (isLocalPortOpen s.now port (s.pcbs p) (s.cache p)).1,
        s.scanTime p port, s.moments⟩ :: s.answers } := by
  cases p <;> rfl

/-- The result of a call, and what is then in the cache, is from a recorded scan. -/
theorem isLocalPortOpen_scanned (h : Inv s) (p : Proto) (port : Nat) :
    ∃ m ∈ s.moments, m.time = s.scanTime p port ∧
      scan port (m.pcbs p) = (isLocalPortOpen s.now port (s.pcbs p) (s.cache p)).1 ∧
      scan (isLocalPortOpen s.now port (s.pcbs p) (s.cache p)).2.lastPort (m.pcbs p) =
        (isLocalPortOpen s.now port (s.pcbs p) (s.cache p)).2.lastResult := by
  unfold isLocalPortOpen State.scanTime
  split
  · rename_i hHit
    obtain ⟨m, hMem, hTime, hScan⟩ := h.scanned p
    have hPort : (s.cache p).lastPort = port := by
      unfold Cache.hit at hHit
      exact of_decide_eq_true (Bool.and_eq_true_iff.mp hHit).1
    exact ⟨m, hMem, hTime, hPort ▸ hScan, hScan⟩
  · exact ⟨_, h.now, rfl, rfl, rfl⟩

theorem scanTime_le (h : Inv s) (p : Proto) (port : Nat) : s.scanTime p port ≤ s.now := by
  unfold State.scanTime
  split
  · exact h.past p
  · exact Nat.le_refl _

theorem call_inv (h : Inv s) (p : Proto) (port : Nat) : Inv (call s p port) := by
  rw [call_eq]
  refine ⟨h.now, fun q => ?_, fun q => ?_⟩
  · by_cases hq : q = p
    · subst hq
      obtain ⟨m, hMem, hTime, -, hScan⟩ := isLocalPortOpen_scanned h q port
      simp only [Function.update_self]
      exact ⟨m, hMem, hTime, hScan⟩
    · simp only [Function.update_of_ne hq]
      exact h.scanned q
  · by_cases hq : q = p
    · subst hq
      simp only [Function.update_self]
      exact scanTime_le h q port
    · simp only [Function.update_of_ne hq]
      exact h.past q

theorem step_inv {a : Action} (h : Inv s) (hStep : step s a = some s') : Inv s' := by
  cases a with
  | tick micros => cases hStep; exact tick_inv h micros
  | openPort p port => cases hStep; exact record_inv h rfl rfl rfl (Nat.le_refl _)
  | closePort p port => cases hStep; exact record_inv h rfl rfl rfl (Nat.le_refl _)
  | call p port => cases hStep; exact call_inv h p port

/-- The scan that a call answers from is at most 1000 units old, or the call is a hit that is
not fresh. -/
theorem scanTime_window_iff (s : State) (p : Proto) (port : Nat) :
    s.now ≤ s.scanTime p port + 1000 ↔ Fresh s (.call p port) := by
  unfold State.scanTime Fresh
  split
  · rename_i hHit
    exact ⟨fun h _ => h, fun h => h hHit⟩
  · rename_i hHit
    exact ⟨fun _ h => absurd h hHit, fun _ => Nat.le_add_right _ _⟩

theorem call_current_iff (h : Inv s) (p : Proto) (port : Nat) :
    (∀ a ∈ (call s p port).answers, a.Current) ↔
      (∀ a ∈ s.answers, a.Current) ∧ Fresh s (.call p port) := by
  rw [call_eq, List.forall_mem_cons, ← scanTime_window_iff, and_comm]
  refine and_congr_right fun _ => ⟨fun hCurrent => hCurrent.window, fun hWindow => ⟨?_, hWindow⟩⟩
  obtain ⟨m, hMem, hTime, hScan, -⟩ := isLocalPortOpen_scanned h p port
  have hPast := scanTime_le h p port
  exact ⟨m, hMem, by rw [hTime]; exact hPast, by rw [hTime]; exact hWindow, hScan⟩

/-- Sockets are opened and closed and calls made in any order. -/
theorem answers_current (hRun : Reaches step Fresh boot s) : ∀ a ∈ s.answers, a.Current := by
  refine (hRun.invariant (I := fun s => Inv s ∧ ∀ a ∈ s.answers, a.Current) ⟨boot_inv, nofun⟩
    fun u a v h hFresh hStep => ⟨step_inv h.1 hStep, ?_⟩).2
  cases a with
  | tick | openPort | closePort => cases hStep; exact h.2
  | call p port => cases hStep; exact (call_current_iff h.1 p port).mpr ⟨h.2, hFresh⟩

/-- The port is opened right after the first call, which the second does not see. -/
theorem answers_current_two : ∃ s, Reaches step Fresh boot s ∧
    (s.answers.map fun a => (a.time, a.result)) = [(1562, true), (488, false), (0, false)] ∧
    ∀ a ∈ s.answers, a.Current := by
  obtain ⟨s, hRun, hEq⟩ := Option.map_eq_some_iff.mp (show (runGuarded step Fresh boot
      [.call .tcp 5001, .openPort .tcp 5001, .tick 500000, .call .tcp 5001, .tick 1100000,
        .call .tcp 5001]).map
      (fun s => s.answers.map fun a => (a.time, a.result)) =
        some [(1562, true), (488, false), (0, false)] by decide +kernel)
  exact ⟨s, .of_run hRun, hEq, answers_current (.of_run hRun)⟩

/-- A port that is asked for every 900000 microseconds stays closed after it was opened. -/
theorem stale_answer : ∃ s, Reaches step anyStep boot s ∧
    ∃ a ∈ s.answers, a.time = 1757 ∧ a.result = false ∧
      (∀ m ∈ a.moments, a.time ≤ m.time + 1000 → scan a.port (m.pcbs a.proto) = true) ∧
      ¬ a.Current := by
  obtain ⟨s, hRun, hEq⟩ := Option.map_eq_some_iff.mp (show (run step boot
      [.call .tcp 5001, .openPort .tcp 5001, .tick 900000, .call .tcp 5001, .tick 900000,
        .call .tcp 5001]).map
      (fun s => decide (∃ a ∈ s.answers, a.time = 1757 ∧ a.result = false ∧
        ∀ m ∈ a.moments, a.time ≤ m.time + 1000 → scan a.port (m.pcbs a.proto) = true)) =
        some true by decide +kernel)
  obtain ⟨a, hMem, hTime, hResult, hOpen⟩ := of_decide_eq_true hEq
  refine ⟨s, .of_plain_run hRun, a, hMem, hTime, hResult, hOpen, fun hCurrent => ?_⟩
  obtain ⟨m, hm, -, hWindow, hScan⟩ := hCurrent.agrees
  rw [hOpen m hm hWindow, hResult] at hScan
  exact Bool.noConfusion hScan

end EspHosted.NwSplit.PortCache
