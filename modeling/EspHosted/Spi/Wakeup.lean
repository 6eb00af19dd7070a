import EspHosted.Driver.PrioQueue

/-!
# Waking the host over two lines

On the full-duplex SPI bus the slave raises the handshake line when a transaction is loaded and
the data-ready line when a packet waits. Either edge gives the semaphore on which the host's
transaction task waits, and the data-ready edge is also kept in `dr_isr_triggered`. The slave
shadows its data-ready line by `data_ready_flag` and lowers the line when it finds nothing to
send.

A step is one access to a line, a flag, a semaphore or a queue, or the transfer itself. Any
number of writers run `esp_spi_write` and `generate_startup_event` beside
`spi_transaction_post_process_task`, and any number of threads run `esp_hosted_tx` on the host.

* `nothing_waits`: when the host's task waits and nothing else can go on, no packet is left on
  either side. This needs that `data_ready_flag` is cleared over a lowered line only while every
  packet of the slave still has its raise ahead or its interrupt kept, that the data-ready
  handler is not overtaken between its two statements, that there is memory for a dummy
  whenever the driver has no other transaction, and that a transfer that fails is tried again;
* `host_progress`: the host's task never waits elsewhere.
-/

namespace EspHosted.Spi.Wakeup

open Machine
open Driver.PrioQueue (Prio pktPrio)

/-! ## The slave -/

def espPrivIf : Nat := 5
def espMaxIf : Nat := 8

/-- Where a thread of the slave is: in `esp_spi_write` or `generate_startup_event` before it
queues the event, gives `spi_tx_sem`, tests `data_ready_flag`, raises the line, sets the flag;
in `queue_next_transaction` before it takes the semaphore, tries a queue, tests the flag, lowers
the line, clears the flag, allocates a dummy, queues the transaction with a packet or a dummy. -/
inductive SlavePc
  | idle
  | sendEvent
  | give (startup : Bool)
  | testSet (startup : Bool)
  | raise (startup : Bool)
  | setFlag (startup : Bool)
  | take
  | recv (p : Prio)
  | testReset
  | lower
  | clearFlag
  | allocDummy
  | queueTrans (tx : Option Nat)
  deriving DecidableEq

/-- A packet is known by its interface type. `loaded` are the transactions that the driver has
not finished, `results` counts those that it has. Thread 0 is
`spi_transaction_post_process_task`. -/
structure Slave where
  dataReadyFlag : Bool
  dataReady : Bool
  handshake : Bool
  txSem : Nat
  txQueue : Prio → List Nat
  loaded : List (Option Nat)
  results : Nat
  threads : List SlavePc

/-! ## The host -/

/-- Where `spi_transaction_task` is. -/
inductive HostPc
  | blocked
  | readHandshake
  | readDataReady (hs : Bool)
  | readIsrFlag (hs dr : Bool)
  | getTx (dr : Bool)
  | testFlags (dr valid : Bool)
  | transfer
  | process (rx : Option Nat)
  | finish (hs : Bool)
  deriving DecidableEq

/-- Where a caller of `esp_hosted_tx` is: outside, before it gives `sem_to_slave_queue`, before
it gives `spi_trans_ready_sem`. -/
inductive ProducerPc
  | idle
  | giveQueue
  | giveTrans
  deriving DecidableEq

/-- `hsPending` and `drPending` are edges whose handler has not begun; `drGiven` says that
`gpio_dr_isr_handler` is between its two statements. -/
structure Host where
  transReadySem : Bool
  hsPending : Bool
  drPending : Bool
  drGiven : Bool
  drIsrTriggered : Bool
  scheduleDummyTx : Bool
  scheduleDummyRx : Bool
  pc : HostPc
  semToSlave : Nat
  toSlave : Nat
  producers : List ProducerPc
  fromSlave : Prio → List Nat

structure System where
  slave : Slave
  host : Host

/-- Thread 1 of the slave is going to announce the slave. -/
def boot (n m : Nat) : System :=
  { slave :=
      { dataReadyFlag := false, dataReady := false, handshake := false, txSem := 0,
        txQueue := fun _ => [], loaded := [], results := 0,
        threads := .idle :: .sendEvent :: List.replicate n .idle }
    host :=
      { transReadySem := false, hsPending := false, drPending := false, drGiven := false,
        drIsrTriggered := false, scheduleDummyTx := false, scheduleDummyRx := false,
        pc := .blocked, semToSlave := 0, toSlave := 0, producers := List.replicate m .idle,
        fromSlave := fun _ => [] } }

/-! ## Steps of the slave -/

/-- `xQueueSend` by the interface type. -/
def put (q : Prio → List Nat) (ifType : Nat) : Prio → List Nat :=
  Function.update q (pktPrio ifType) (q (pktPrio ifType) ++ [ifType])

/-- The line goes up; if it was down, there is an edge. -/
def System.raise (s : System) : System :=
  { slave := { s.slave with dataReady := true }
    host := { s.host with drPending := s.host.drPending || !s.slave.dataReady } }

/-- After `set_dataready_gpio`. -/
def afterSet (startup : Bool) : SlavePc := if startup then .take else .give false

/-- After one of the queues was empty. -/
def afterEmpty : Prio → SlavePc
  | .serial => .recv .bt
  | .bt => .recv .others
  | .others => .testReset

/-- What a thread does next, and where it goes. -/
def SlavePc.exec (s : System) : SlavePc → Option (System × SlavePc)
  | .idle => none
  | .sendEvent =>
    some ({ s with slave := { s.slave with txQueue := put s.slave.txQueue espPrivIf } }, .give true)
  | .give startup =>
    some ({ s with slave := { s.slave with txSem := s.slave.txSem + 1 } },
      if startup then .testSet true else .idle)
  | .testSet startup =>
    some (s, if s.slave.dataReadyFlag then afterSet startup else .raise startup)
  | .raise startup => some (s.raise, .setFlag startup)
  | .setFlag startup =>
    some ({ s with slave := { s.slave with dataReadyFlag := true } }, afterSet startup)
  | .take =>
    if s.slave.txSem = 0 then some (s, .testReset)
    else some ({ s with slave := { s.slave with txSem := s.slave.txSem - 1 } }, .recv .serial)
  | .recv p =>
    match s.slave.txQueue p with
    | [] => some (s, afterEmpty p)
    | ifType :: rest =>
      some ({ s with slave := { s.slave with txQueue := Function.update s.slave.txQueue p rest } },
        .queueTrans (some ifType))
  | .testReset => some (s, if s.slave.dataReadyFlag then .lower else .allocDummy)
  | .lower => some ({ s with slave := { s.slave with dataReady := false } }, .clearFlag)
  | .clearFlag =>
    some ({ s with slave := { s.slave with dataReadyFlag := false } }, .allocDummy)
  | .allocDummy => some (s, .queueTrans none)
  | .queueTrans tx =>
    some ({ s with slave := { s.slave with loaded := s.slave.loaded ++ [tx] } }, .idle)

/-- Thread `i` of the slave is at `q`. -/
def System.goto (s : System) (i : Nat) (q : SlavePc) : System :=
  { s with slave := { s.slave with threads := s.slave.threads.set i q } }

def slave (s : System) (i : Nat) : Option System :=
  match s.slave.threads[i]? with
  | none => none
  | some pc => (pc.exec s).map fun r => r.1.goto i r.2

/-- There is no memory for a dummy, and `queue_next_transaction` queues nothing. -/
def allocFails (s : System) (i : Nat) : Option System :=
  if s.slave.threads[i]? = some .allocDummy then some (s.goto i .idle) else none

/-- `esp_spi_write` queues a packet. -/
def espSpiWrite (s : System) (i ifType : Nat) : Option System :=
  if s.slave.threads[i]? = some .idle ∧ i ≠ 0 then
    some (System.goto { s with slave := { s.slave with txQueue := put s.slave.txQueue ifType } } i
      (.testSet false))
  else none

def generateStartupEvent (s : System) (i : Nat) : Option System :=
  if s.slave.threads[i]? = some .idle ∧ i ≠ 0 then some (s.goto i .sendEvent) else none

/-- `spi_slave_get_trans_result`. -/
def getTransResult (s : System) : Option System :=
  if s.slave.threads[0]? = some .idle ∧ s.slave.results ≠ 0 then
    some (System.goto { s with slave := { s.slave with results := s.slave.results - 1 } } 0 .take)
  else none

/-- `spi_post_setup_cb`: the next transaction can be picked up. -/
def postSetup (s : System) : Option System :=
  if s.slave.loaded ≠ [] ∧ s.slave.handshake = false then
    some { slave := { s.slave with handshake := true }, host := { s.host with hsPending := true } }
  else none

/-! ## Steps of the host -/

def Host.give (h : Host) : Host := { h with transReadySem := true }

def gpioHsIsrHandler (s : System) : Option System :=
  if s.host.hsPending then
    some { s with host := { s.host.give with hsPending := false } }
  else none

def gpioDrIsrHandler (s : System) : Option System :=
  if s.host.drGiven then
    some { s with host := { s.host with drIsrTriggered := true, drGiven := false } }
  else if s.host.drPending then
    some { s with host := { s.host.give with drPending := false, drGiven := true } }
  else none

/-- `esp_hosted_tx` queues a packet. One without a payload is not handed over with zero copy. -/
def espHostedTx (s : System) (j : Nat) : Option System :=
  if s.host.producers[j]? = some .idle then
    some { s with host := { s.host with toSlave := s.host.toSlave + 1
                                        producers := s.host.producers.set j .giveQueue } }
  else none

/-- The rest of `esp_hosted_tx`. -/
def producer (s : System) (j : Nat) : Option System :=
  match s.host.producers[j]? with
  | some .giveQueue =>
    some { s with host := { s.host with semToSlave := s.host.semToSlave + 1
                                        producers := s.host.producers.set j .giveTrans } }
  | some .giveTrans =>
    some { s with host := { s.host.give with producers := s.host.producers.set j .idle } }
  | _ => none

/-- `get_next_tx_buffer` of the host. -/
def Host.getTx (h : Host) (dr : Bool) : Host :=
  if h.semToSlave ≠ 0 then
    { h with semToSlave := h.semToSlave - 1, toSlave := h.toSlave - 1, pc := .testFlags dr true }
  else { h with pc := .testFlags dr false }

/-- There is a transfer, with a packet or a dummy, or there is none. -/
def Host.testFlags (h : Host) (dr valid : Bool) : Host :=
  if valid then { h with scheduleDummyTx := true, pc := .transfer }
  else if dr || h.scheduleDummyTx || h.scheduleDummyRx then
    { h with scheduleDummyTx := false, pc := .transfer }
  else { h with pc := .finish true }

/-- `process_spi_rx_buf`; the packets of the slave fit and have a payload, a dummy has none. A
packet with a wrong checksum is dropped. -/
def Host.processRx (h : Host) (checksumOk : Bool) : Option Nat → Host
  | none => { h with scheduleDummyRx := false, pc := .finish true }
  | some ifType =>
    { h with scheduleDummyRx := h.scheduleDummyRx && ifType != espMaxIf, drIsrTriggered := false,
             fromSlave := if checksumOk then put h.fromSlave ifType else h.fromSlave,
             pc := .finish true }

/-- `spi_transaction_task` and `check_and_execute_spi_transaction`. The handshake falls when the
transfer begins. -/
def transactionTask (s : System) (checksumOk : Bool) : Option System :=
  match s.host.pc with
  | .blocked =>
    if s.host.transReadySem then
      some { s with host := { s.host with transReadySem := false, pc := .readHandshake } }
    else none
  | .readHandshake =>
    some { s with host := { s.host with pc := .readDataReady s.slave.handshake } }
  | .readDataReady hs =>
    some { s with host := { s.host with pc := .readIsrFlag hs s.slave.dataReady } }
  | .readIsrFlag hs dr =>
    some { s with host := { s.host with
      pc := if hs then .getTx (dr || s.host.drIsrTriggered) else .finish false } }
  | .getTx dr => some { s with host := s.host.getTx dr }
  | .testFlags dr valid => some { s with host := s.host.testFlags dr valid }
  | .transfer =>
    match s.slave.loaded with
    | [] => none
    | tx :: rest =>
      some { slave := { s.slave with loaded := rest, handshake := false
                                     results := s.slave.results + 1 }
             host := { s.host with pc := .process tx } }
  | .process rx => some { s with host := s.host.processRx checksumOk rx }
  | .finish hs =>
    some { s with host := { s.host with
      transReadySem := s.host.transReadySem || !hs || s.host.scheduleDummyTx ||
        s.host.scheduleDummyRx
      pc := .blocked } }

/-- `h_spi_transfer` fails, with or without a transaction of the slave, and nothing is processed. -/
def transferFails (s : System) (onBus : Bool) : Option System :=
  match s.host.pc, s.slave.loaded with
  | .transfer, _ :: rest =>
    some { slave :=
             if onBus then { s.slave with loaded := rest, handshake := false
                                          results := s.slave.results + 1 }
             else s.slave
           host := { s.host with pc := .finish true } }
  | _, _ => none

/-- `spi_process_rx_task` schedules a dummy after the packets of these interfaces: serial,
station, access point. -/
def schedulesDummy (ifType : Nat) : Bool := ifType == 3 || ifType == 1 || ifType == 2

/-- `spi_process_rx_task`, whichever queue it receives from. -/
def processRxTask (s : System) (p : Prio) : Option System :=
  match s.host.fromSlave p with
  | [] => none
  | ifType :: rest =>
    some { s with host := { s.host with
      fromSlave := Function.update s.host.fromSlave p rest
      scheduleDummyRx := s.host.scheduleDummyRx || schedulesDummy ifType } }

inductive Action
  | write (i ifType : Nat)
  | startup (i : Nat)
  | slave (i : Nat)
  | allocFails (i : Nat)
  | result
  | setup
  | hostTx (j : Nat)
  | producer (j : Nat)
  | hsIsr
  | drIsr
  | transaction (checksumOk : Bool)
  | transferFails (onBus : Bool)
  | rx (p : Prio)

def step (s : System) : Action → Option System
  | .write i ifType => espSpiWrite s i ifType
  | .startup i => generateStartupEvent s i
  | .slave i => slave s i
  | .allocFails i => allocFails s i
  | .result => getTransResult s
  | .setup => postSetup s
  | .hostTx j => espHostedTx s j
  | .producer j => producer s j
  | .hsIsr => gpioHsIsrHandler s
  | .drIsr => gpioDrIsrHandler s
  | .transaction checksumOk => transactionTask s checksumOk
  | .transferFails onBus => transferFails s onBus
  | .rx p => processRxTask s p

/-! ## What is kept -/

/-- The writers, and the callers of `esp_hosted_tx`. -/
def Action.External : Action → Prop
  | .write .. | .startup _ | .hostTx _ => True
  | _ => False

/-- The transaction task waits, and no other task and no interrupt goes on. -/
def AtRest (s : System) : Prop := s.host.pc = .blocked ∧ ∀ a, ¬ a.External → step s a = none

structure NothingWaits (s : System) : Prop where
  toHost : AtRest s → (∀ p, s.slave.txQueue p = []) ∧ ∀ tx ∈ s.slave.loaded, tx = none
  toSlave : AtRest s → s.host.toSlave = 0

/-- The number of packets in the three queues. -/
def queued (q : Prio → List Nat) : Nat := (q .serial).length + (q .bt).length + (q .others).length

/-- The thread holds a packet. -/
def SlavePc.carries : SlavePc → Bool
  | .queueTrans tx => tx.isSome
  | _ => false

/-- The thread has queued a packet and has not tested the flag since. -/
def SlavePc.covers : SlavePc → Bool
  | .give startup => startup
  | .testSet _ | .raise _ => true
  | _ => false

/-- The thread has raised the line and is going to set the flag. -/
def SlavePc.sets : SlavePc → Bool
  | .setFlag _ => true
  | _ => false

/-- The thread is going to queue a transaction. -/
def SlavePc.loads : SlavePc → Bool
  | .idle => false
  | .give startup | .testSet startup | .raise startup | .setFlag startup => startup
  | _ => true

/-- The packets that the host has not got. -/
def Slave.outstanding (s : Slave) : Nat :=
  queued s.txQueue + s.loaded.countP Option.isSome + s.threads.countP SlavePc.carries

/-- The host has received a packet and is going to clear `dr_isr_triggered`. -/
def HostPc.receives : HostPc → Bool
  | .process rx => rx.isSome
  | _ => false

/-- An edge of the data-ready line is kept for the next packet. -/
def Host.latched (h : Host) : Bool :=
  (h.drPending || h.drGiven || h.drIsrTriggered) && !h.pc.receives

/-- Every packet still has its raise ahead, except for one whose edge is kept. -/
def Kept (s : System) : Prop :=
  s.slave.threads.countP SlavePc.sets = 0 ∧
    s.slave.outstanding ≤ s.slave.threads.countP SlavePc.covers + s.host.latched.toNat

instance (s : System) : Decidable (Kept s) := inferInstanceAs (Decidable (_ ∧ _))

/-- The host has scheduled a dummy, or has the semaphore to come. -/
def Host.comesAgain (h : Host) : Bool :=
  h.scheduleDummyTx || h.scheduleDummyRx || h.transReadySem || h.hsPending || h.drPending

/-- The flag is cleared in time, the data-ready handler is not overtaken by the test of the flag
that it is going to set, there is memory for a dummy unless the driver has another transaction,
and the host comes again when a transfer did not get on the bus. -/
def Timely (s : System) : Action → Prop
  | .slave i => s.slave.threads[i]? = some .clearFlag → s.slave.dataReady = false → Kept s
  | .allocFails _ => s.slave.loaded ≠ [] ∨ s.slave.results ≠ 0
  | .transaction _ =>
    s.host.pc = .readIsrFlag true false → s.host.drGiven = true → s.host.drIsrTriggered = true
  | .transferFails onBus => onBus = false → s.host.comesAgain = true
  | _ => True

instance (s : System) (a : Action) : Decidable (Timely s a) := by
  cases a using Action.casesOn <;> unfold Timely <;> infer_instance

/-- While the line is low and nobody is about to clear the flag, the flag is cleared and every
packet is kept; and there is always a transaction, or somebody who is going to queue one. -/
structure SlaveInv (s : System) : Prop where
  kept : s.slave.dataReady = false → s.slave.threads.count .clearFlag = 0 →
    s.slave.dataReadyFlag = false ∧ Kept s
  loading : s.slave.loaded ≠ [] ∨ s.slave.results ≠ 0 ∨ 0 < s.slave.threads.countP SlavePc.loads
  task : s.slave.threads ≠ []

/-- The task is going to test the lines, or has seen that it must transfer or come again. -/
def HostPc.awake (dummy : Bool) : HostPc → Bool
  | .readHandshake | .readDataReady _ | .readIsrFlag false _ | .readIsrFlag true true => true
  | .getTx true | .transfer => true
  | .testFlags dr valid => dr || valid
  | .finish hs => !hs || dummy
  | _ => false

/-- The task has the semaphore to come, or is awake. -/
def Host.alert (h : Host) : Bool :=
  h.transReadySem || h.hsPending || h.drPending ||
    h.pc.awake (h.scheduleDummyTx || h.scheduleDummyRx)

/-- The task relies on the handshake that it has read. -/
def HostPc.sawHandshake : HostPc → Bool
  | .readDataReady hs | .readIsrFlag hs _ => hs
  | .getTx _ | .testFlags .. | .transfer => true
  | _ => false

structure BusInv (s : System) : Prop where
  loaded : s.slave.handshake = true → s.slave.loaded ≠ []
  sawHandshake : s.host.pc.sawHandshake = true → s.slave.handshake = true
  line : s.slave.handshake = true → s.slave.dataReady = true → s.host.alert = true
  isrFlag : s.slave.handshake = true → s.host.drGiven = true ∨ s.host.drIsrTriggered = true →
    s.host.alert = true ∨ s.host.pc = .readIsrFlag true false

/-- The task is going to look at `to_slave_queue`, or to give itself the semaphore. -/
def Host.looks (h : Host) : Bool :=
  h.transReadySem || match h.pc with
  | .blocked => false
  | .readHandshake | .readDataReady _ | .readIsrFlag _ _ | .getTx _ => true
  | .testFlags _ valid => valid
  | .transfer | .process _ => h.scheduleDummyTx
  | .finish hs => !hs || h.scheduleDummyTx

def ProducerPc.busy : ProducerPc → Bool
  | .idle => false
  | _ => true

/-- Every packet has its token, given or still to be given. -/
structure HostInv (h : Host) : Prop where
  tokens : h.semToSlave + h.producers.count .giveQueue = h.toSlave
  looks : h.toSlave ≠ 0 → 0 < h.producers.countP ProducerPc.busy ∨ h.looks = true

section Steps

variable {s s' : System}

theorem queued_put (q : Prio → List Nat) (ifType : Nat) :
    queued (put q ifType) = queued q + 1 := by
  unfold put queued
  cases pktPrio ifType <;>
    simp only [Function.update, List.length_append, List.length_singleton, reduceCtorEq,
      ↓reduceDIte] <;> omega

theorem queued_receive {q : Prio → List Nat} {p : Prio} {ifType : Nat} {rest : List Nat}
    (h : q p = ifType :: rest) : queued (Function.update q p rest) + 1 = queued q := by
  have hLength : (q p).length = rest.length + 1 := by rw [h, List.length_cons]
  unfold queued
  cases p <;> simp only [Function.update, reduceCtorEq, ↓reduceDIte] <;> omega

/-! ### The slave -/

/-- What a step of the slave does to the two lines and to the host. -/
theorem exec_bus {pc q : SlavePc} {u : System} (hExec : pc.exec s = some (u, q)) :
    u = s.raise ∨ (u.host = s.host ∧ u.slave.handshake = s.slave.handshake ∧
      (s.slave.loaded ≠ [] → u.slave.loaded ≠ []) ∧
      (u.slave.dataReady = true → s.slave.dataReady = true)) := by
  cases pc with
  | idle => cases hExec
  | raise startup =>
    cases hExec
    exact Or.inl rfl
  | take =>
    simp only [SlavePc.exec] at hExec
    split at hExec <;> cases hExec <;> exact Or.inr ⟨rfl, rfl, id, id⟩
  | recv p =>
    simp only [SlavePc.exec] at hExec
    split at hExec <;> cases hExec <;> exact Or.inr ⟨rfl, rfl, id, id⟩
  | lower =>
    cases hExec
    exact Or.inr ⟨rfl, rfl, id, nofun⟩
  | queueTrans tx =>
    cases hExec
    exact Or.inr ⟨rfl, rfl, fun _ => by simp, id⟩
  | _ =>
    cases hExec
    exact Or.inr ⟨rfl, rfl, id, id⟩

theorem exec_threads {pc q : SlavePc} {u : System} (hExec : pc.exec s = some (u, q)) :
    u.slave.threads = s.slave.threads ∧ u.slave.results = s.slave.results := by
  cases pc with
  | idle => cases hExec
  | take =>
    simp only [SlavePc.exec] at hExec
    split at hExec <;> cases hExec <;> exact ⟨rfl, rfl⟩
  | recv p =>
    simp only [SlavePc.exec] at hExec
    split at hExec <;> cases hExec <;> exact ⟨rfl, rfl⟩
  | _ =>
    cases hExec
    exact ⟨rfl, rfl⟩

/-- Who is on the way to a transaction stays on it until it is queued. -/
theorem exec_loads {pc q : SlavePc} {u : System} (hExec : pc.exec s = some (u, q))
    (hLoads : pc.loads = true) :
    (q.loads = true ∧ u.slave.loaded = s.slave.loaded) ∨ u.slave.loaded ≠ [] := by
  cases pc with
  | idle => cases hExec
  | give startup =>
    cases hExec
    cases startup with
    | false => cases hLoads
    | true => exact Or.inl ⟨rfl, rfl⟩
  | testSet startup =>
    cases hExec
    cases startup with
    | false => cases hLoads
    | true => exact Or.inl ⟨by split <;> rfl, rfl⟩
  | setFlag startup =>
    cases hExec
    cases startup with
    | false => cases hLoads
    | true => exact Or.inl ⟨rfl, rfl⟩
  | take =>
    simp only [SlavePc.exec] at hExec
    split at hExec <;> cases hExec <;> exact Or.inl ⟨rfl, rfl⟩
  | recv p =>
    simp only [SlavePc.exec] at hExec
    split at hExec <;> cases hExec
    · exact Or.inl ⟨by cases p <;> rfl, rfl⟩
    · exact Or.inl ⟨rfl, rfl⟩
  | testReset =>
    cases hExec
    exact Or.inl ⟨by split <;> rfl, rfl⟩
  | queueTrans tx =>
    cases hExec
    exact Or.inr (by simp)
  | _ =>
    cases hExec
    exact Or.inl ⟨hLoads, rfl⟩

theorem loading_exec (h : SlaveInv s) {i : Nat} {pc q : SlavePc} {u : System}
    (hPc : s.slave.threads[i]? = some pc) (hExec : pc.exec s = some (u, q)) :
    u.slave.loaded ≠ [] ∨ u.slave.results ≠ 0 ∨
      0 < (u.slave.threads.set i q).countP SlavePc.loads := by
  obtain ⟨hThreads, hResults⟩ := exec_threads hExec
  have hLoads := Slots.countP_set_add (b := q) SlavePc.loads hPc
  rw [hThreads, hResults]
  by_cases hPcLoads : pc.loads = true
  · rcases exec_loads hExec hPcLoads with ⟨hq, -⟩ | hLoaded
    · rw [if_pos hPcLoads, if_pos hq] at hLoads
      have hPos : 0 < s.slave.threads.countP SlavePc.loads :=
        List.countP_pos_iff.mpr ⟨pc, List.mem_of_getElem? hPc, hPcLoads⟩
      exact Or.inr (Or.inr (by omega))
    · exact Or.inl hLoaded
  · rw [if_neg hPcLoads] at hLoads
    rcases h.loading with hLoaded | hRes | hPos
    · refine Or.inl ?_
      rcases exec_bus hExec with rfl | ⟨-, -, hKeep, -⟩
      · exact hLoaded
      · exact hKeep hLoaded
    · exact Or.inr (Or.inl hRes)
    · exact Or.inr (Or.inr (by omega))

/-- A thread that touches neither the line nor the flag, and brings no packet out of cover. -/
theorem kept_quiet (h : SlaveInv s) {i : Nat} {pc q : SlavePc} {u : System}
    (hPc : s.slave.threads[i]? = some pc) (hThreads : u.slave.threads = s.slave.threads)
    (hHost : u.host = s.host) (hLine : u.slave.dataReady = s.slave.dataReady)
    (hFlag : u.slave.dataReadyFlag = s.slave.dataReadyFlag) (hClear : pc ≠ .clearFlag)
    (hBalance : s.slave.dataReadyFlag = false → q.sets = false ∧
      queued u.slave.txQueue + u.slave.loaded.countP Option.isSome + q.carries.toNat +
          pc.covers.toNat ≤
        queued s.slave.txQueue + s.slave.loaded.countP Option.isSome + pc.carries.toNat +
          q.covers.toNat) :
    (u.goto i q).slave.dataReady = false →
      (u.goto i q).slave.threads.count .clearFlag = 0 →
      (u.goto i q).slave.dataReadyFlag = false ∧ Kept (u.goto i q) := by
  intro hLow hNone
  have hSets := Slots.countP_set_toNat (b := q) SlavePc.sets hPc
  have hCovers := Slots.countP_set_toNat (b := q) SlavePc.covers hPc
  have hCarries := Slots.countP_set_toNat (b := q) SlavePc.carries hPc
  have hCount := Slots.count_set_add (b := q) .clearFlag hPc
  rw [if_neg hClear] at hCount
  replace hNone : (s.slave.threads.set i q).count .clearFlag = 0 := hThreads ▸ hNone
  obtain ⟨hFlagLow, hNoSets, hLe⟩ := h.kept (hLine ▸ hLow) (by omega)
  obtain ⟨hq, hBal⟩ := hBalance hFlagLow
  rw [hq, Bool.toNat_false] at hSets
  refine ⟨hFlag.trans hFlagLow, ?_, ?_⟩
  · show (u.slave.threads.set i q).countP SlavePc.sets = 0
    rw [hThreads]
    omega
  · show queued u.slave.txQueue + u.slave.loaded.countP Option.isSome +
        (u.slave.threads.set i q).countP SlavePc.carries ≤
      (u.slave.threads.set i q).countP SlavePc.covers + u.host.latched.toNat
    unfold Slave.outstanding at hLe
    rw [hThreads, hHost]
    omega

theorem kept_exec (h : SlaveInv s) {i : Nat} {pc q : SlavePc} {u : System}
    (hPc : s.slave.threads[i]? = some pc)
    (hTimely : pc = .clearFlag → s.slave.dataReady = false → Kept s)
    (hExec : pc.exec s = some (u, q)) :
    (u.goto i q).slave.dataReady = false →
      (u.goto i q).slave.threads.count .clearFlag = 0 →
      (u.goto i q).slave.dataReadyFlag = false ∧ Kept (u.goto i q) := by
  have hCount := Slots.count_set_add (b := q) .clearFlag hPc
  cases pc with
  | idle => cases hExec
  | sendEvent =>
    cases hExec
    refine kept_quiet h hPc rfl rfl rfl rfl nofun fun _ => ⟨rfl, ?_⟩
    have hPut := queued_put s.slave.txQueue espPrivIf
    simp only [SlavePc.carries, SlavePc.covers, Bool.toNat_false, Bool.toNat_true]
    omega
  | give startup =>
    cases hExec
    refine kept_quiet h hPc rfl rfl rfl rfl nofun fun _ => ?_
    cases startup with
    | false => exact ⟨rfl, Nat.le_refl _⟩
    | true => exact ⟨rfl, Nat.le_refl _⟩
  | testSet startup =>
    cases hExec
    refine kept_quiet h hPc rfl rfl rfl rfl nofun fun hFlag => ?_
    rw [hFlag]
    exact ⟨rfl, Nat.le_refl _⟩
  | raise startup =>
    cases hExec
    nofun
  | setFlag startup =>
    cases hExec
    intro hLow hNone
    have hSome : 0 < s.slave.threads.countP SlavePc.sets :=
      List.countP_pos_iff.mpr ⟨_, List.mem_of_getElem? hPc, rfl⟩
    replace hNone : (s.slave.threads.set i (afterSet startup)).count .clearFlag = 0 := hNone
    rw [if_neg nofun] at hCount
    have hKept := h.kept hLow (by omega)
    exact absurd hKept.2.1 (by omega)
  | take =>
    simp only [SlavePc.exec] at hExec
    split at hExec <;> cases hExec <;>
      exact kept_quiet h hPc rfl rfl rfl rfl nofun fun _ => ⟨rfl, Nat.le_refl _⟩
  | recv p =>
    simp only [SlavePc.exec] at hExec
    split at hExec
    · cases hExec
      refine kept_quiet h hPc rfl rfl rfl rfl nofun fun _ => ?_
      cases p <;> exact ⟨rfl, Nat.le_refl _⟩
    · rename_i ifType rest hQueue
      cases hExec
      refine kept_quiet h hPc rfl rfl rfl rfl nofun fun _ => ⟨rfl, ?_⟩
      have hReceive := queued_receive hQueue
      simp only [SlavePc.carries, SlavePc.covers, Option.isSome_some, Bool.toNat_false,
        Bool.toNat_true]
      omega
  | testReset =>
    cases hExec
    refine kept_quiet h hPc rfl rfl rfl rfl nofun fun hFlag => ?_
    rw [hFlag]
    exact ⟨rfl, Nat.le_refl _⟩
  | lower =>
    cases hExec
    intro _ hNone
    replace hNone : (s.slave.threads.set i .clearFlag).count .clearFlag = 0 := hNone
    rw [if_pos rfl, if_neg nofun] at hCount
    omega
  | clearFlag =>
    cases hExec
    intro hLow _
    obtain ⟨hNoSets, hLe⟩ := hTimely rfl hLow
    have hSets := Slots.countP_set_toNat (b := .allocDummy) SlavePc.sets hPc
    have hCovers := Slots.countP_set_toNat (b := .allocDummy) SlavePc.covers hPc
    have hCarries := Slots.countP_set_toNat (b := .allocDummy) SlavePc.carries hPc
    simp only [SlavePc.sets, SlavePc.covers, SlavePc.carries, Bool.toNat_false]
      at hSets hCovers hCarries
    refine ⟨rfl, hSets.trans hNoSets, ?_⟩
    show queued s.slave.txQueue + s.slave.loaded.countP Option.isSome +
        (s.slave.threads.set i .allocDummy).countP SlavePc.carries ≤
      (s.slave.threads.set i .allocDummy).countP SlavePc.covers + s.host.latched.toNat
    unfold Slave.outstanding at hLe
    omega
  | allocDummy =>
    cases hExec
    exact kept_quiet h hPc rfl rfl rfl rfl nofun fun _ => ⟨rfl, Nat.le_refl _⟩
  | queueTrans tx =>
    cases hExec
    refine kept_quiet h hPc rfl rfl rfl rfl nofun fun _ => ⟨rfl, ?_⟩
    rw [List.countP_append, List.countP_singleton]
    cases tx <;> simp [SlavePc.carries, SlavePc.covers, Nat.add_assoc]

theorem SlaveInv.slave (h : SlaveInv s) {i : Nat} (hTimely : Timely s (.slave i))
    (hStep : slave s i = some s') : SlaveInv s' := by
  unfold Wakeup.slave at hStep
  split at hStep
  · cases hStep
  · rename_i pc hPc
    obtain ⟨⟨u, q⟩, hExec, rfl⟩ := Option.map_eq_some_iff.mp hStep
    refine ⟨kept_exec h hPc (fun hEq => hTimely (hEq ▸ hPc)) hExec, loading_exec h hPc hExec, ?_⟩
    show u.slave.threads.set i q ≠ []
    rw [(exec_threads hExec).1]
    exact mt (List.set_eq_nil_iff _ _).mp h.task

/-- A thread leaves without a transaction, while the driver has another one. -/
theorem SlaveInv.allocFails (h : SlaveInv s) {i : Nat} (hTimely : Timely s (.allocFails i))
    (hStep : allocFails s i = some s') : SlaveInv s' := by
  simp only [Wakeup.allocFails, Option.ite_none_right_eq_some] at hStep
  obtain ⟨hPc, hEq⟩ := hStep
  cases hEq
  refine ⟨kept_quiet h hPc rfl rfl rfl rfl nofun fun _ => ⟨rfl, Nat.le_refl _⟩, ?_,
    mt (List.set_eq_nil_iff _ _).mp h.task⟩
  exact hTimely.imp_right Or.inl

/-- A thread that was outside begins. -/
theorem SlaveInv.begin (h : SlaveInv s) {i : Nat} {q : SlavePc} {u : System}
    (hPc : s.slave.threads[i]? = some .idle) (hThreads : u.slave.threads = s.slave.threads)
    (hHost : u.host = s.host) (hLine : u.slave.dataReady = s.slave.dataReady)
    (hFlag : u.slave.dataReadyFlag = s.slave.dataReadyFlag)
    (hLoaded : u.slave.loaded = s.slave.loaded)
    (hLoading : u.slave.results = s.slave.results ∨ q.loads = true)
    (hSets : q.sets = false)
    (hBalance : queued u.slave.txQueue + q.carries.toNat ≤
      queued s.slave.txQueue + q.covers.toNat) : SlaveInv (u.goto i q) := by
  refine ⟨kept_quiet h hPc hThreads hHost hLine hFlag nofun fun _ => ⟨hSets, ?_⟩, ?_,
    mt (List.set_eq_nil_iff _ _).mp (hThreads ▸ h.task)⟩
  · rw [hLoaded]
    simp only [SlavePc.carries, SlavePc.covers, Bool.toNat_false] at hBalance ⊢
    omega
  · have hLoads := Slots.countP_set_toNat (b := q) SlavePc.loads hPc
    rw [show SlavePc.loads .idle = false from rfl, Bool.toNat_false] at hLoads
    show u.slave.loaded ≠ [] ∨ u.slave.results ≠ 0 ∨
      0 < (u.slave.threads.set i q).countP SlavePc.loads
    rw [hThreads, hLoaded]
    rcases h.loading with hSome | hResults | hPos
    · exact Or.inl hSome
    · rcases hLoading with hEq | hq
      · exact Or.inr (Or.inl (hEq ▸ hResults))
      · rw [hq, Bool.toNat_true] at hLoads
        exact Or.inr (Or.inr (by omega))
    · exact Or.inr (Or.inr (by omega))

/-- The host goes on, and keeps the edges that it had kept. -/
theorem SlaveInv.host (h : SlaveInv s) {host : Host}
    (hLatched : s.host.latched = true → host.latched = true) : SlaveInv { s with host } := by
  refine { h with kept := fun hLow hNone => ?_ }
  obtain ⟨hFlag, hNoSets, hLe⟩ := h.kept hLow hNone
  have hLatch : s.host.latched.toNat ≤ host.latched.toNat := by
    cases hOld : s.host.latched with
    | false => exact Nat.zero_le _
    | true => exact Nat.le_of_eq (congrArg Bool.toNat (hLatched hOld)).symm
  exact ⟨hFlag, hNoSets, Nat.le_trans hLe (Nat.add_le_add_left hLatch _)⟩

theorem SlaveInv.transfer (h : SlaveInv s) {tx : Option Nat} {rest : List (Option Nat)}
    (hLoaded : s.slave.loaded = tx :: rest) (hPc : s.host.pc = .transfer) :
    SlaveInv
      { slave := { s.slave with loaded := rest, handshake := false
                                results := s.slave.results + 1 }
        host := { s.host with pc := .process tx } } := by
  refine ⟨fun hLow hNone => ?_, Or.inr (Or.inl (Nat.succ_ne_zero _)), h.task⟩
  obtain ⟨hFlag, hNoSets, hLe⟩ := h.kept hLow hNone
  refine ⟨hFlag, hNoSets, ?_⟩
  show queued s.slave.txQueue + rest.countP Option.isSome +
      s.slave.threads.countP SlavePc.carries ≤ s.slave.threads.countP SlavePc.covers +
    (Host.latched { s.host with pc := .process tx }).toNat
  unfold Slave.outstanding at hLe
  rw [hLoaded, List.countP_cons] at hLe
  cases tx with
  | none =>
    have hEq : Host.latched { s.host with pc := .process none } = s.host.latched := by
      simp [Host.latched, HostPc.receives, hPc]
    rw [hEq]
    simpa using hLe
  | some ifType =>
    have hOne := Bool.toNat_le s.host.latched
    rw [Option.isSome_some, if_pos rfl] at hLe
    omega

/-- The transfer fails: the slave is done with the transaction, or has it still. -/
theorem SlaveInv.transferFails (h : SlaveInv s) {onBus : Bool} {tx : Option Nat}
    {rest : List (Option Nat)} (hLoaded : s.slave.loaded = tx :: rest)
    (hPc : s.host.pc = .transfer) :
    SlaveInv
      { slave :=
          if onBus then { s.slave with loaded := rest, handshake := false
                                       results := s.slave.results + 1 }
          else s.slave
        host := { s.host with pc := .finish true } } := by
  have hLatched : s.host.latched = Host.latched { s.host with pc := .finish true } := by
    simp [Host.latched, HostPc.receives, hPc]
  cases onBus with
  | false => exact h.host fun hOld => hLatched ▸ hOld
  | true =>
    refine ⟨fun hLow hNone => ?_, Or.inr (Or.inl (Nat.succ_ne_zero _)), h.task⟩
    obtain ⟨hFlag, hNoSets, hLe⟩ := h.kept hLow hNone
    refine ⟨hFlag, hNoSets, ?_⟩
    show queued s.slave.txQueue + rest.countP Option.isSome +
        s.slave.threads.countP SlavePc.carries ≤ s.slave.threads.countP SlavePc.covers +
      (Host.latched { s.host with pc := .finish true }).toNat
    unfold Slave.outstanding at hLe
    rw [hLoaded, List.countP_cons] at hLe
    rw [← hLatched]
    omega

theorem SlaveInv.step (h : SlaveInv s) {a : Action} (hTimely : Timely s a)
    (hStep : step s a = some s') : SlaveInv s' := by
  cases a with
  | write i ifType =>
    simp only [Wakeup.step, espSpiWrite, Option.ite_none_right_eq_some] at hStep
    obtain ⟨⟨hPc, -⟩, hEq⟩ := hStep
    cases hEq
    exact h.begin hPc rfl rfl rfl rfl rfl (Or.inl rfl) rfl (Nat.le_of_eq (queued_put _ _))
  | startup i =>
    simp only [Wakeup.step, generateStartupEvent, Option.ite_none_right_eq_some] at hStep
    obtain ⟨⟨hPc, -⟩, hEq⟩ := hStep
    cases hEq
    exact h.begin hPc rfl rfl rfl rfl rfl (Or.inl rfl) rfl (Nat.le_refl _)
  | slave i => exact h.slave hTimely hStep
  | allocFails i => exact h.allocFails hTimely hStep
  | result =>
    simp only [Wakeup.step, getTransResult, Option.ite_none_right_eq_some] at hStep
    obtain ⟨⟨hPc, -⟩, hEq⟩ := hStep
    cases hEq
    exact h.begin hPc rfl rfl rfl rfl rfl (Or.inr rfl) rfl (Nat.le_refl _)
  | setup =>
    simp only [Wakeup.step, postSetup, Option.ite_none_right_eq_some] at hStep
    cases hStep.2
    exact ⟨h.kept, h.loading, h.task⟩
  | hostTx j =>
    simp only [Wakeup.step, espHostedTx, Option.ite_none_right_eq_some] at hStep
    cases hStep.2
    exact h.host id
  | producer j =>
    simp only [Wakeup.step, producer] at hStep
    split at hStep <;> cases hStep <;> exact h.host id
  | hsIsr =>
    simp only [Wakeup.step, gpioHsIsrHandler, Option.ite_none_right_eq_some] at hStep
    cases hStep.2
    exact h.host id
  | drIsr =>
    simp only [Wakeup.step, gpioDrIsrHandler] at hStep
    split at hStep
    · cases hStep
      refine h.host fun hOld => ?_
      simp only [Host.latched, Bool.and_eq_true] at hOld ⊢
      exact ⟨by simp, hOld.2⟩
    · simp only [Option.ite_none_right_eq_some] at hStep
      cases hStep.2
      refine h.host fun hOld => ?_
      simp only [Host.latched, Bool.and_eq_true] at hOld ⊢
      exact ⟨by simp, hOld.2⟩
  | rx p =>
    simp only [Wakeup.step, processRxTask] at hStep
    split at hStep <;> cases hStep
    exact h.host id
  | transferFails onBus =>
    simp only [Wakeup.step, Wakeup.transferFails] at hStep
    split at hStep
    · rename_i hPc hLoaded
      cases hStep
      exact h.transferFails hLoaded hPc
    · cases hStep
  | transaction checksumOk =>
    simp only [Wakeup.step, transactionTask] at hStep
    split at hStep <;> rename_i hPc
    · simp only [Option.ite_none_right_eq_some] at hStep
      cases hStep.2
      exact h.host fun hOld => by simpa [Host.latched, HostPc.receives, hPc] using hOld
    · cases hStep
      exact h.host fun hOld => by simpa [Host.latched, HostPc.receives, hPc] using hOld
    · cases hStep
      exact h.host fun hOld => by simpa [Host.latched, HostPc.receives, hPc] using hOld
    · cases hStep
      refine h.host fun hOld => ?_
      split <;> simpa [Host.latched, HostPc.receives, hPc] using hOld
    · cases hStep
      refine h.host fun hOld => ?_
      unfold Host.getTx
      split <;> simpa [Host.latched, HostPc.receives, hPc] using hOld
    · cases hStep
      refine h.host fun hOld => ?_
      unfold Host.testFlags
      split
      · simpa [Host.latched, HostPc.receives, hPc] using hOld
      · split <;> simpa [Host.latched, HostPc.receives, hPc] using hOld
    · split at hStep <;> cases hStep
      exact h.transfer ‹_› hPc
    · rename_i rx
      cases hStep
      refine h.host fun hOld => ?_
      cases rx with
      | none => simpa [Host.processRx, Host.latched, HostPc.receives, hPc] using hOld
      | some ifType => simp [Host.latched, HostPc.receives, hPc] at hOld
    · cases hStep
      exact h.host fun hOld => by simpa [Host.latched, HostPc.receives, hPc] using hOld

/-! ### The lines -/

/-- The host stays alert, or has no reason to. -/
theorem BusInv.host (h : BusInv s) {host : Host}
    (hSaw : host.pc.sawHandshake = true → s.slave.handshake = true)
    (hAlert : s.host.alert = true → host.alert = true)
    (hIsr : host.drGiven = true ∨ host.drIsrTriggered = true →
      (s.host.drGiven = true ∨ s.host.drIsrTriggered = true) ∧
        (s.host.pc = .readIsrFlag true false →
          host.alert = true ∨ host.pc = .readIsrFlag true false)) :
    BusInv { s with host } := by
  refine ⟨h.loaded, hSaw, fun hHs hLine => hAlert (h.line hHs hLine), fun hHs hFlag => ?_⟩
  obtain ⟨hOld, hPc⟩ := hIsr hFlag
  rcases h.isrFlag hHs hOld with hOldAlert | hOldPc
  · exact Or.inl (hAlert hOldAlert)
  · exact hPc hOldPc

theorem BusInv.alert (h : BusInv s) {host : Host} (hAlert : host.alert = true)
    (hSaw : host.pc.sawHandshake = true → s.slave.handshake = true) :
    BusInv { s with host } :=
  ⟨h.loaded, hSaw, fun _ _ => hAlert, fun _ _ => Or.inl hAlert⟩

theorem BusInv.slave (h : BusInv s) {i : Nat} (hStep : slave s i = some s') : BusInv s' := by
  unfold Wakeup.slave at hStep
  split at hStep
  · cases hStep
  · obtain ⟨⟨u, q⟩, hExec, rfl⟩ := Option.map_eq_some_iff.mp hStep
    have hAlert : s.host.alert = true → s.raise.host.alert = true := by
      simp only [System.raise, Host.alert, Bool.or_eq_true]
      rintro (((hSem | hHs) | hDr) | hPc)
      · exact Or.inl (Or.inl (Or.inl hSem))
      · exact Or.inl (Or.inl (Or.inr hHs))
      · exact Or.inl (Or.inr (Or.inl hDr))
      · exact Or.inr hPc
    rcases exec_bus hExec with rfl | ⟨hHost, hHs, hLoaded, hLine⟩
    · refine ⟨h.loaded, h.sawHandshake, fun hUp _ => ?_, fun hUp hFlag => ?_⟩
      · cases hOld : s.slave.dataReady with
        | true => exact hAlert (h.line hUp hOld)
        | false => simp [System.goto, System.raise, Host.alert, hOld]
      · exact (h.isrFlag hUp hFlag).imp hAlert id
    · refine ⟨fun hUp => hLoaded (h.loaded (hHs ▸ hUp)), fun hSaw => ?_, fun hUp hHigh => ?_,
        fun hUp hFlag => ?_⟩
      · exact hHs.trans (h.sawHandshake (hHost ▸ hSaw))
      · show u.host.alert = true
        rw [hHost]
        exact h.line (hHs ▸ hUp) (hLine hHigh)
      · show u.host.alert = true ∨ u.host.pc = _
        rw [hHost]
        exact h.isrFlag (hHs ▸ hUp) (hHost ▸ hFlag)

theorem HostPc.awake_mono {pc : HostPc} {dummy dummy' : Bool}
    (hDummy : dummy = true → dummy' = true) (hAwake : pc.awake dummy = true) :
    pc.awake dummy' = true := by
  cases pc with
  | finish hs =>
    simp only [HostPc.awake, Bool.or_eq_true] at hAwake ⊢
    exact hAwake.imp_right hDummy
  | readIsrFlag hs dr => cases hs <;> cases dr <;> exact hAwake
  | getTx dr => cases dr <;> exact hAwake
  | _ => exact hAwake

theorem alert_getTx {h : Host} {dr : Bool} (hPc : h.pc = .getTx dr) (hAlert : h.alert = true) :
    (h.getTx dr).alert = true := by
  simp only [Host.alert, hPc, Bool.or_eq_true] at hAlert
  unfold Host.getTx
  split
  · simp [Host.alert, HostPc.awake]
  · cases dr with
    | true => simp [Host.alert, HostPc.awake]
    | false =>
      simp only [Host.alert, HostPc.awake, Bool.or_eq_true, Bool.false_eq_true, or_false]
        at hAlert ⊢
      exact hAlert

theorem alert_testFlags {h : Host} {dr valid : Bool} (hPc : h.pc = .testFlags dr valid)
    (hAlert : h.alert = true) : (h.testFlags dr valid).alert = true := by
  simp only [Host.alert, hPc, HostPc.awake, Bool.or_eq_true] at hAlert
  unfold Host.testFlags
  split
  · simp [Host.alert, HostPc.awake]
  · split
    · simp [Host.alert, HostPc.awake]
    · rename_i hPacket hQuiet
      cases dr with
      | true => simp at hQuiet
      | false =>
        simp only [Host.alert, Bool.or_eq_true]
        exact Or.inl (hAlert.resolve_right (by simpa using hPacket))

theorem BusInv.transaction (h : BusInv s) {checksumOk : Bool}
    (hTimely : Timely s (.transaction checksumOk))
    (hStep : transactionTask s checksumOk = some s') : BusInv s' := by
  unfold transactionTask at hStep
  split at hStep <;> rename_i hPc
  · simp only [Option.ite_none_right_eq_some] at hStep
    cases hStep.2
    exact h.alert (by simp [Host.alert, HostPc.awake]) nofun
  · cases hStep
    exact h.alert (by simp [Host.alert, HostPc.awake]) id
  · rename_i hs
    cases hStep
    refine ⟨h.loaded, fun hSaw => h.sawHandshake (by rw [hPc]; exact hSaw), fun _ hLine => ?_,
      fun _ _ => ?_⟩
    · replace hLine : s.slave.dataReady = true := hLine
      simp only [Host.alert, hLine]
      cases hs <;> simp [HostPc.awake]
    · cases hs with
      | false => simp [Host.alert, HostPc.awake]
      | true => cases hLine : s.slave.dataReady <;> simp [Host.alert, HostPc.awake]
  · rename_i hs dr
    cases hStep
    cases hs with
    | false => exact h.alert (by simp [Host.alert, HostPc.awake]) nofun
    | true =>
      have hUp := h.sawHandshake (by rw [hPc]; rfl)
      refine h.host (fun _ => hUp) (fun hAlert => ?_) (fun hFlag => ⟨hFlag, fun hTest => ?_⟩)
      · cases dr with
        | true => simp [Host.alert, HostPc.awake]
        | false =>
          simp only [Host.alert, hPc, HostPc.awake, Bool.or_false] at hAlert
          simp [Host.alert, hAlert]
      · have hSet : s.host.drIsrTriggered = true := by
          rcases hFlag with hGiven | hSet
          · exact hTimely hTest hGiven
          · exact hSet
        exact Or.inl (by simp [Host.alert, HostPc.awake, hSet])
  · cases hStep
    have hUp := h.sawHandshake (by rw [hPc]; rfl)
    refine h.host (fun _ => hUp) (alert_getTx hPc) fun hFlag => ⟨?_, fun hTest => ?_⟩
    · unfold Host.getTx at hFlag
      split at hFlag <;> exact hFlag
    · rw [hPc] at hTest
      cases hTest
  · cases hStep
    have hUp := h.sawHandshake (by rw [hPc]; rfl)
    refine h.host (fun _ => hUp) (alert_testFlags hPc) fun hFlag => ⟨?_, fun hTest => ?_⟩
    · unfold Host.testFlags at hFlag
      split at hFlag
      · exact hFlag
      · split at hFlag <;> exact hFlag
    · rw [hPc] at hTest
      cases hTest
  · split at hStep <;> cases hStep
    exact ⟨nofun, nofun, nofun, nofun⟩
  · rename_i rx
    cases hStep
    have hAlert : s.host.alert = true → (s.host.processRx checksumOk rx).alert = true := by
      intro hOld
      simp only [Host.alert, hPc, HostPc.awake, Bool.or_false] at hOld
      cases rx <;> exact Bool.or_eq_true_iff.mpr (Or.inl hOld)
    refine h.host (by cases rx <;> nofun) hAlert fun hFlag => ⟨?_, fun hTest => ?_⟩
    · cases rx with
      | none => exact hFlag
      | some ifType => exact hFlag.imp id nofun
    · rw [hPc] at hTest
      cases hTest
  · rename_i hs
    cases hStep
    refine h.host nofun (fun hAlert => ?_) fun hFlag => ⟨hFlag, fun hTest => ?_⟩
    · cases hs with
      | false => simp [Host.alert]
      | true =>
        simp only [Host.alert, hPc, HostPc.awake, Bool.or_false, Bool.or_eq_true] at hAlert ⊢
        tauto
    · rw [hPc] at hTest
      cases hTest

theorem BusInv.transferFails (h : BusInv s) {onBus : Bool}
    (hTimely : Timely s (.transferFails onBus)) (hStep : transferFails s onBus = some s') :
    BusInv s' := by
  unfold Wakeup.transferFails at hStep
  split at hStep
  · cases hStep
    cases onBus with
    | true => exact ⟨nofun, nofun, nofun, nofun⟩
    | false =>
      refine h.alert ?_ nofun
      have hAgain := hTimely rfl
      simp only [Host.comesAgain, Host.alert, HostPc.awake, Bool.or_eq_true, Bool.not_true,
        Bool.false_or] at hAgain ⊢
      tauto
  · cases hStep

theorem BusInv.step (h : BusInv s) {a : Action} (hTimely : Timely s a)
    (hStep : step s a = some s') : BusInv s' := by
  cases a with
  | write i ifType =>
    simp only [Wakeup.step, espSpiWrite, Option.ite_none_right_eq_some] at hStep
    cases hStep.2
    exact ⟨h.loaded, h.sawHandshake, h.line, h.isrFlag⟩
  | startup i =>
    simp only [Wakeup.step, generateStartupEvent, Option.ite_none_right_eq_some] at hStep
    cases hStep.2
    exact ⟨h.loaded, h.sawHandshake, h.line, h.isrFlag⟩
  | slave i => exact h.slave hStep
  | allocFails i =>
    simp only [Wakeup.step, allocFails, Option.ite_none_right_eq_some] at hStep
    cases hStep.2
    exact ⟨h.loaded, h.sawHandshake, h.line, h.isrFlag⟩
  | result =>
    simp only [Wakeup.step, getTransResult, Option.ite_none_right_eq_some] at hStep
    cases hStep.2
    exact ⟨h.loaded, h.sawHandshake, h.line, h.isrFlag⟩
  | setup =>
    simp only [Wakeup.step, postSetup, Option.ite_none_right_eq_some] at hStep
    obtain ⟨⟨hLoaded, -⟩, hEq⟩ := hStep
    cases hEq
    have hAlert : Host.alert { s.host with hsPending := true } = true := by simp [Host.alert]
    exact ⟨fun _ => hLoaded, fun _ => rfl, fun _ _ => hAlert, fun _ _ => Or.inl hAlert⟩
  | hostTx j =>
    simp only [Wakeup.step, espHostedTx, Option.ite_none_right_eq_some] at hStep
    cases hStep.2
    exact ⟨h.loaded, h.sawHandshake, h.line, h.isrFlag⟩
  | producer j =>
    simp only [Wakeup.step, producer] at hStep
    split at hStep <;> cases hStep
    · exact ⟨h.loaded, h.sawHandshake, h.line, h.isrFlag⟩
    · exact h.alert (by simp [Host.alert, Host.give]) h.sawHandshake
  | hsIsr =>
    simp only [Wakeup.step, gpioHsIsrHandler, Option.ite_none_right_eq_some] at hStep
    cases hStep.2
    exact h.alert (by simp [Host.alert, Host.give]) h.sawHandshake
  | drIsr =>
    simp only [Wakeup.step, gpioDrIsrHandler] at hStep
    split at hStep
    · rename_i hGiven
      cases hStep
      exact h.host h.sawHandshake id fun _ => ⟨Or.inl hGiven, Or.inr⟩
    · simp only [Option.ite_none_right_eq_some] at hStep
      cases hStep.2
      exact h.alert (by simp [Host.alert, Host.give]) h.sawHandshake
  | rx p =>
    simp only [Wakeup.step, processRxTask] at hStep
    split at hStep <;> cases hStep
    refine h.host h.sawHandshake (fun hAlert => ?_) fun hFlag => ⟨hFlag, Or.inr⟩
    simp only [Host.alert, Bool.or_eq_true] at hAlert ⊢
    exact hAlert.imp_right (HostPc.awake_mono fun hDummy => by simp [← Bool.or_assoc, hDummy])
  | transferFails onBus => exact h.transferFails hTimely hStep
  | transaction checksumOk => exact h.transaction hTimely hStep

/-! ### The host -/

theorem HostInv.frame {h host : Host} (hInv : HostInv h) (hSem : host.semToSlave = h.semToSlave)
    (hQueue : host.toSlave = h.toSlave) (hProducers : host.producers = h.producers)
    (hLooks : h.looks = true → host.looks = true) : HostInv host := by
  refine ⟨?_, fun hNe => ?_⟩
  · rw [hSem, hQueue, hProducers]
    exact hInv.tokens
  · rw [hProducers]
    exact (hInv.looks (hQueue ▸ hNe)).imp id hLooks

theorem HostInv.give {h host : Host} (hInv : HostInv h) (hSem : host.semToSlave = h.semToSlave)
    (hQueue : host.toSlave = h.toSlave) (hProducers : host.producers = h.producers)
    (hGiven : host.transReadySem = true) : HostInv host :=
  hInv.frame hSem hQueue hProducers fun _ => by simp [Host.looks, hGiven]

theorem HostInv.hostTx {h : Host} (hInv : HostInv h) {j : Nat}
    (hPc : h.producers[j]? = some .idle) :
    HostInv { h with toSlave := h.toSlave + 1, producers := h.producers.set j .giveQueue } := by
  have hCount := Slots.count_set_add (b := .giveQueue) .giveQueue hPc
  have hBusy := Slots.countP_set_toNat (b := .giveQueue) ProducerPc.busy hPc
  rw [if_neg nofun, if_pos rfl] at hCount
  have hTokens := hInv.tokens
  refine ⟨?_, fun _ => Or.inl ?_⟩
  · show h.semToSlave + (h.producers.set j .giveQueue).count .giveQueue = h.toSlave + 1
    omega
  · show 0 < (h.producers.set j .giveQueue).countP ProducerPc.busy
    replace hBusy : (h.producers.set j .giveQueue).countP ProducerPc.busy + 0 =
      h.producers.countP ProducerPc.busy + 1 := hBusy
    omega

theorem HostInv.giveQueue {h : Host} (hInv : HostInv h) {j : Nat}
    (hPc : h.producers[j]? = some .giveQueue) :
    HostInv { h with semToSlave := h.semToSlave + 1
                     producers := h.producers.set j .giveTrans } := by
  have hCount := Slots.count_set_add (b := .giveTrans) .giveQueue hPc
  have hBusy := Slots.countP_set_toNat (b := .giveTrans) ProducerPc.busy hPc
  rw [if_pos rfl, if_neg nofun] at hCount
  have hTokens := hInv.tokens
  refine ⟨?_, fun hNe => ?_⟩
  · show h.semToSlave + 1 + (h.producers.set j .giveTrans).count .giveQueue = h.toSlave
    omega
  · refine (hInv.looks hNe).imp (fun hPos => ?_) id
    have hSame : (h.producers.set j .giveTrans).countP ProducerPc.busy =
      h.producers.countP ProducerPc.busy := Nat.add_right_cancel hBusy
    exact hSame ▸ hPos

theorem HostInv.giveTrans {h : Host} (hInv : HostInv h) {j : Nat}
    (hPc : h.producers[j]? = some .giveTrans) :
    HostInv { h.give with producers := h.producers.set j .idle } := by
  have hCount := Slots.count_set_add (b := .idle) .giveQueue hPc
  rw [if_neg nofun, if_neg nofun] at hCount
  have hTokens := hInv.tokens
  refine ⟨?_, fun _ => Or.inr (by simp [Host.looks, Host.give])⟩
  show h.semToSlave + (h.producers.set j .idle).count .giveQueue = h.toSlave
  omega

theorem HostInv.getTx {h : Host} (hInv : HostInv h) {dr : Bool} : HostInv (h.getTx dr) := by
  have hTokens := hInv.tokens
  unfold Host.getTx
  split
  · rename_i hSem
    refine ⟨?_, fun _ => Or.inr (by simp [Host.looks])⟩
    show h.semToSlave - 1 + h.producers.count .giveQueue = h.toSlave - 1
    omega
  · rename_i hSem
    replace hSem : h.semToSlave = 0 := by simpa using hSem
    refine ⟨hTokens, fun hNe => Or.inl ?_⟩
    -- whatever is queued has its producer before the token
    replace hNe : h.toSlave ≠ 0 := hNe
    have hMem : ProducerPc.giveQueue ∈ h.producers := List.count_pos_iff.mp (by omega)
    exact List.countP_pos_iff.mpr ⟨_, hMem, rfl⟩

theorem HostInv.testFlags {h : Host} (hInv : HostInv h) {dr valid : Bool}
    (hPc : h.pc = .testFlags dr valid) : HostInv (h.testFlags dr valid) := by
  have hLooks : h.looks = true → h.transReadySem = true ∨ valid = true := by
    intro hOld
    simpa [Host.looks, hPc] using hOld
  unfold Host.testFlags
  split
  · exact hInv.frame rfl rfl rfl fun _ => by simp [Host.looks]
  · rename_i hPacket
    have hSem (hOld : h.looks = true) : h.transReadySem = true :=
      (hLooks hOld).resolve_right hPacket
    split
    · exact hInv.frame rfl rfl rfl fun hOld => by simp [Host.looks, hSem hOld]
    · exact hInv.frame rfl rfl rfl fun hOld => by simp [Host.looks, hSem hOld]

theorem HostInv.transaction (h : HostInv s.host) {checksumOk : Bool}
    (hStep : transactionTask s checksumOk = some s') : HostInv s'.host := by
  unfold transactionTask at hStep
  split at hStep <;> rename_i hPc
  · simp only [Option.ite_none_right_eq_some] at hStep
    cases hStep.2
    exact h.frame rfl rfl rfl fun _ => by simp [Host.looks]
  · cases hStep
    exact h.frame rfl rfl rfl fun _ => by simp [Host.looks]
  · cases hStep
    exact h.frame rfl rfl rfl fun _ => by simp [Host.looks]
  · rename_i hs dr
    cases hStep
    exact h.frame rfl rfl rfl fun _ => by cases hs <;> simp [Host.looks]
  · cases hStep
    exact h.getTx
  · cases hStep
    exact h.testFlags hPc
  · split at hStep <;> cases hStep
    exact h.frame rfl rfl rfl fun hLooks => by simpa [Host.looks, hPc] using hLooks
  · rename_i rx
    cases hStep
    have hLooks : s.host.looks = true → (s.host.processRx checksumOk rx).looks = true := by
      cases rx <;> simp [Host.looks, Host.processRx, hPc]
    cases rx with
    | none => exact h.frame rfl rfl rfl hLooks
    | some ifType => exact h.frame rfl rfl rfl hLooks
  · rename_i hs
    cases hStep
    refine h.frame rfl rfl rfl fun hLooks => ?_
    simp only [Host.looks, hPc, Bool.or_eq_true, Bool.or_false] at hLooks ⊢
    tauto

theorem HostInv.step (h : HostInv s.host) {a : Action} (hStep : step s a = some s') :
    HostInv s'.host := by
  cases a with
  | write i ifType =>
    simp only [Wakeup.step, espSpiWrite, Option.ite_none_right_eq_some] at hStep
    cases hStep.2
    exact h
  | startup i =>
    simp only [Wakeup.step, generateStartupEvent, Option.ite_none_right_eq_some] at hStep
    cases hStep.2
    exact h
  | slave i =>
    simp only [Wakeup.step, Wakeup.slave] at hStep
    split at hStep
    · cases hStep
    · obtain ⟨⟨u, q⟩, hExec, rfl⟩ := Option.map_eq_some_iff.mp hStep
      rcases exec_bus hExec with rfl | ⟨hHost, -⟩
      · exact h.frame rfl rfl rfl id
      · show HostInv u.host
        rwa [hHost]
  | allocFails i =>
    simp only [Wakeup.step, allocFails, Option.ite_none_right_eq_some] at hStep
    cases hStep.2
    exact h
  | result =>
    simp only [Wakeup.step, getTransResult, Option.ite_none_right_eq_some] at hStep
    cases hStep.2
    exact h
  | setup =>
    simp only [Wakeup.step, postSetup, Option.ite_none_right_eq_some] at hStep
    cases hStep.2
    exact h.frame rfl rfl rfl id
  | hostTx j =>
    simp only [Wakeup.step, espHostedTx, Option.ite_none_right_eq_some] at hStep
    obtain ⟨hPc, hEq⟩ := hStep
    cases hEq
    exact h.hostTx hPc
  | producer j =>
    simp only [Wakeup.step, producer] at hStep
    split at hStep <;> cases hStep
    · exact h.giveQueue ‹_›
    · exact h.giveTrans ‹_›
  | hsIsr =>
    simp only [Wakeup.step, gpioHsIsrHandler, Option.ite_none_right_eq_some] at hStep
    cases hStep.2
    exact h.give rfl rfl rfl rfl
  | drIsr =>
    simp only [Wakeup.step, gpioDrIsrHandler] at hStep
    split at hStep
    · cases hStep
      exact h.frame rfl rfl rfl id
    · simp only [Option.ite_none_right_eq_some] at hStep
      cases hStep.2
      exact h.give rfl rfl rfl rfl
  | rx p =>
    simp only [Wakeup.step, processRxTask] at hStep
    split at hStep <;> cases hStep
    exact h.frame rfl rfl rfl id
  | transferFails onBus =>
    simp only [Wakeup.step, transferFails] at hStep
    split at hStep
    · rename_i hPc _
      cases hStep
      exact h.frame rfl rfl rfl fun hLooks => by simpa [Host.looks, hPc] using hLooks
    · cases hStep
  | transaction checksumOk => exact h.transaction hStep

end Steps

/-! ## Nothing waits -/

/-- A thread that is not outside can go on. -/
theorem exec_isSome (s : System) {pc : SlavePc} (hPc : pc ≠ .idle) : (pc.exec s).isSome = true := by
  cases pc with
  | idle => exact absurd rfl hPc
  | take =>
    simp only [SlavePc.exec]
    split <;> rfl
  | recv p =>
    simp only [SlavePc.exec]
    split <;> rfl
  | _ => rfl

structure WakeupInv (s : System) : Prop where
  slave : SlaveInv s
  bus : BusInv s
  host : HostInv s.host

theorem wakeupInv_boot (n m : Nat) : WakeupInv (boot n m) := by
  have hIdle : ∀ f : SlavePc → Bool, f .idle = false → f .sendEvent = false →
      (boot n m).slave.threads.countP f = 0 := by
    intro f hf hf'
    show List.countP f (.idle :: .sendEvent :: List.replicate n .idle) = 0
    simp [List.countP_replicate, hf, hf']
  refine ⟨⟨fun _ _ => ⟨rfl, hIdle _ rfl rfl, ?_⟩, Or.inr (Or.inr ?_), nofun⟩,
    ⟨nofun, nofun, nofun, nofun⟩, ⟨?_, nofun⟩⟩
  · show 0 + 0 + _ ≤ _
    rw [hIdle SlavePc.carries rfl rfl]
    exact Nat.zero_le _
  · exact List.countP_pos_iff.mpr ⟨.sendEvent, by simp [boot], rfl⟩
  · show 0 + (List.replicate m ProducerPc.idle).count .giveQueue = 0
    simp [List.count_replicate]

theorem wakeupInv_of_run {n m : Nat} {s : System} (hRun : Reaches step Timely (boot n m) s) :
    WakeupInv s :=
  hRun.invariant (wakeupInv_boot n m) fun _ _ _ h hTimely hStep =>
    ⟨h.slave.step hTimely hStep, h.bus.step hTimely hStep, h.host.step hStep⟩

/-- The task of the host waits for nothing but its semaphore. -/
theorem host_progress {n m : Nat} {s : System} (hRun : Reaches step Timely (boot n m) s)
    (hPc : s.host.pc ≠ .blocked) (checksumOk : Bool) : transactionTask s checksumOk ≠ none := by
  have hInv := (wakeupInv_of_run hRun).bus
  unfold transactionTask
  split
  · rename_i hBlocked
    exact absurd hBlocked hPc
  · nofun
  · nofun
  · nofun
  · nofun
  · nofun
  · rename_i hTransfer
    have hLoaded := hInv.loaded (hInv.sawHandshake (by rw [hTransfer]; rfl))
    split
    · exact absurd ‹_› hLoaded
    · nofun
  · nofun
  · nofun

section AtRest

variable {s : System}

theorem AtRest.threads (h : AtRest s) : ∀ pc ∈ s.slave.threads, pc = .idle := by
  intro pc hMem
  obtain ⟨i, hi⟩ := List.mem_iff_getElem?.mp hMem
  by_contra hPc
  have hNone : slave s i = none := h.2 (.slave i) id
  simp only [slave, hi, Option.map_eq_none_iff] at hNone
  have hSome := exec_isSome s hPc
  rw [hNone] at hSome
  cases hSome

theorem AtRest.countP (h : AtRest s) {f : SlavePc → Bool} (hIdle : f .idle = false) :
    s.slave.threads.countP f = 0 := by
  refine List.countP_eq_zero.mpr fun pc hMem => ?_
  rw [h.threads pc hMem, hIdle]
  nofun

theorem AtRest.producers (h : AtRest s) : s.host.producers.countP ProducerPc.busy = 0 := by
  refine List.countP_eq_zero.mpr fun p hMem => ?_
  obtain ⟨j, hj⟩ := List.mem_iff_getElem?.mp hMem
  have hNone : producer s j = none := h.2 (.producer j) id
  cases p with
  | idle => nofun
  | giveQueue =>
    simp only [producer, hj] at hNone
    cases hNone
  | giveTrans =>
    simp only [producer, hj] at hNone
    cases hNone

theorem AtRest.transReadySem (h : AtRest s) : s.host.transReadySem = false := by
  have hNone : transactionTask s true = none := h.2 (.transaction true) id
  simp only [transactionTask, h.1] at hNone
  simpa using hNone

theorem AtRest.pending (h : AtRest s) :
    s.host.hsPending = false ∧ s.host.drGiven = false ∧ s.host.drPending = false := by
  have hHs : gpioHsIsrHandler s = none := h.2 .hsIsr id
  have hDr : gpioDrIsrHandler s = none := h.2 .drIsr id
  simp only [gpioHsIsrHandler] at hHs
  simp only [gpioDrIsrHandler] at hDr
  exact ⟨by simpa using hHs, by grind, by grind⟩

theorem AtRest.alert (h : AtRest s) : s.host.alert = false := by
  obtain ⟨hHs, -, hDr⟩ := h.pending
  simp [Host.alert, h.transReadySem, hHs, hDr, h.1, HostPc.awake]

/-- At rest a transaction is loaded and the handshake is up. -/
theorem WakeupInv.ready (hInv : WakeupInv s) (h : AtRest s) : s.slave.handshake = true := by
  have hZero : s.slave.threads[0]? = some .idle := by
    obtain ⟨pc, hPc⟩ : ∃ pc, s.slave.threads[0]? = some pc :=
      ⟨_, List.getElem?_eq_getElem (List.length_pos_iff.mpr hInv.slave.task)⟩
    rw [hPc, h.threads pc (List.mem_of_getElem? hPc)]
  have hLoads := h.countP (f := SlavePc.loads) rfl
  have hResult : getTransResult s = none := h.2 .result id
  have hSetup : postSetup s = none := h.2 .setup id
  simp only [getTransResult, hZero, true_and, ite_not, ite_eq_left_iff] at hResult
  simp only [postSetup] at hSetup
  rcases hInv.slave.loading with hLoaded | hResults | hPos
  · by_contra hDown
    rw [if_pos ⟨hLoaded, by simpa using hDown⟩] at hSetup
    cases hSetup
  · exact absurd (hResult hResults) nofun
  · omega

theorem WakeupInv.toHost (hInv : WakeupInv s) (h : AtRest s) :
    (∀ p, s.slave.txQueue p = []) ∧ ∀ tx ∈ s.slave.loaded, tx = none := by
  have hReady := hInv.ready h
  have hAlert := h.alert
  have hLow : s.slave.dataReady = false := by
    by_contra hHigh
    have hTrue := hInv.bus.line hReady (by simpa using hHigh)
    rw [hAlert] at hTrue
    cases hTrue
  have hFlag : s.host.drIsrTriggered = false := by
    by_contra hSet
    rcases hInv.bus.isrFlag hReady (Or.inr (by simpa using hSet)) with hTrue | hPc
    · rw [hAlert] at hTrue
      cases hTrue
    · rw [h.1] at hPc
      cases hPc
  obtain ⟨-, hGiven, hPending⟩ := h.pending
  have hLatched : s.host.latched = false := by simp [Host.latched, hGiven, hPending, hFlag]
  have hClear : s.slave.threads.count .clearFlag = 0 := h.countP rfl
  obtain ⟨-, -, hLe⟩ := hInv.slave.kept hLow hClear
  rw [hLatched, h.countP (f := SlavePc.covers) rfl] at hLe
  simp only [Slave.outstanding, queued, Bool.toNat_false] at hLe
  refine ⟨fun p => List.eq_nil_of_length_eq_zero ?_, fun tx hMem => ?_⟩
  · cases p <;> omega
  · have hNone : s.slave.loaded.countP Option.isSome = 0 := by omega
    simpa using List.countP_eq_zero.mp hNone tx hMem

theorem WakeupInv.toSlave (hInv : WakeupInv s) (h : AtRest s) : s.host.toSlave = 0 := by
  by_contra hNe
  have hBusy := h.producers
  rcases hInv.host.looks hNe with hPos | hLooks
  · omega
  · simp [Host.looks, h.transReadySem, h.1] at hLooks

end AtRest

/-- Nobody can go on: the parts of the state that decide it. -/
def System.still (s : System) : Bool :=
  decide (s.host.pc = .blocked) && !s.host.transReadySem && !s.host.hsPending &&
    !s.host.drPending && !s.host.drGiven && s.slave.handshake && decide (s.slave.results = 0) &&
    s.slave.threads.all (· == .idle) && s.host.producers.all (!·.busy) &&
    [Prio.serial, .bt, .others].all fun p => (s.host.fromSlave p).isEmpty

theorem atRest_of_still {s : System} (h : s.still = true) : AtRest s := by
  simp only [System.still, Bool.and_eq_true, Bool.not_eq_true', decide_eq_true_eq, List.all_cons,
    List.all_nil, List.isEmpty_iff] at h
  obtain ⟨⟨⟨⟨⟨⟨⟨⟨⟨hPc, hSem⟩, hHs⟩, hDr⟩, hGiven⟩, hUp⟩, hResults⟩, hThreads⟩, hProducers⟩,
    hSerial, hBt, hOthers, -⟩ := h
  refine ⟨hPc, fun a hInternal => ?_⟩
  cases a with
  | write i ifType => exact absurd trivial hInternal
  | startup i => exact absurd trivial hInternal
  | hostTx j => exact absurd trivial hInternal
  | slave i =>
    simp only [step, slave]
    split
    · rfl
    · rename_i pc hi
      have hIdle : pc = .idle := by
        simpa using List.all_eq_true.mp hThreads pc (List.mem_of_getElem? hi)
      rw [hIdle]
      rfl
  | allocFails i =>
    have hNot : s.slave.threads[i]? ≠ some .allocDummy := by
      intro hi
      have hIdle := List.all_eq_true.mp hThreads _ (List.mem_of_getElem? hi)
      simp at hIdle
    exact if_neg hNot
  | result => simp [step, getTransResult, hResults]
  | setup => simp [step, postSetup, hUp]
  | producer j =>
    simp only [step, producer]
    split
    · have hBusy := List.all_eq_true.mp hProducers _ (List.mem_of_getElem? ‹_›)
      cases hBusy
    · have hBusy := List.all_eq_true.mp hProducers _ (List.mem_of_getElem? ‹_›)
      cases hBusy
    · rfl
  | hsIsr => simp [step, gpioHsIsrHandler, hHs]
  | drIsr => simp [step, gpioDrIsrHandler, hGiven, hDr]
  | transaction checksumOk => simp [step, transactionTask, hPc, hSem]
  | transferFails onBus => simp [step, transferFails, hPc]
  | rx p => cases p <;> simp [step, processRxTask, hSerial, hBt, hOthers]

/-- As long as the flag is cleared in time, no packet waits when the transaction task does. -/
theorem nothing_waits {n m : Nat} {s : System} (hRun : Reaches step Timely (boot n m) s) :
    NothingWaits s :=
  ⟨(wakeupInv_of_run hRun).toHost, (wakeupInv_of_run hRun).toSlave⟩

/-- The slave announces itself, and thread 2 queues a bluetooth packet and finds the flag set. -/
def announce : List Action :=
  List.replicate 10 (Action.slave 1) ++ ([.setup, .hsIsr, .drIsr, .drIsr] : List Action) ++
    List.replicate 9 (Action.transaction true) ++
      ([.rx .others, .write 2 4, .slave 2] : List Action)

/-- The packet is given before the slave looks for it, one packet of the host crosses it, and two
dummies follow. -/
theorem nothing_waits_crossed :
    ∃ s, Reaches step Timely (boot 1 1) s ∧ AtRest s ∧ NothingWaits s := by
  obtain ⟨s, hs, hStill⟩ := Option.map_eq_some_iff.mp
    (show (runGuarded step Timely (boot 1 1) (announce ++
      [.slave 2, .result] ++ List.replicate 4 (.slave 0) ++ [.setup, .hsIsr, .hostTx 0, .producer 0,
        .producer 0] ++ List.replicate 9 (.transaction true) ++ [.rx .bt, .result] ++
      List.replicate 6 (.slave 0) ++ [.setup, .hsIsr] ++ List.replicate 9 (.transaction true) ++
      [.result] ++ List.replicate 4 (.slave 0) ++ [.setup, .hsIsr] ++
      List.replicate 7 (.transaction true))).map System.still = some true by decide +kernel)
  exact ⟨s, .of_run hs, atRest_of_still hStill, nothing_waits (.of_run hs)⟩

/-- The slave looks for a packet before thread 2 gives the semaphore, lowers the line and loads a
dummy. The handshake finds the line low, and the packet stays where it is. -/
theorem not_nothing_waits :
    ¬ ∀ n m s, Reaches step anyStep (boot n m) s → NothingWaits s := by
  intro h
  obtain ⟨s, hs, hView⟩ := Option.map_eq_some_iff.mp
    (show (run step (boot 1 1) (announce ++ [.result] ++ List.replicate 6 (.slave 0) ++
      [.slave 2, .setup, .hsIsr] ++ List.replicate 7 (.transaction true))).map
      (fun s => (s.still, s.slave.txQueue .bt)) = some (true, [4]) by decide +kernel)
  obtain ⟨hStill, hQueue⟩ : s.still = true ∧ s.slave.txQueue .bt = [4] := by simpa using hView
  have hEmpty := ((h 1 1 s (.of_plain_run hs)).toHost (atRest_of_still hStill)).1 .bt
  rw [hQueue] at hEmpty
  cases hEmpty

end EspHosted.Spi.Wakeup
