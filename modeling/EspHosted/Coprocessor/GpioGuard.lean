import EspHosted.Lib.Machine

/-!
# The pins of the transport

The host may drive the pins of the co-processor and hand them to an external radio. A mask of the
pins that the transport uses is computed at the first request, and `transport_gpio_pin_guard`
refuses these pins and numbers that are no pin. `req_gpio_config` asks for every pin of its bit
mask below `GPIO_NUM_MAX`, and `req_ext_coex` for its four pins, whatever the wire type, except
negative ones.

* `eligible_iff`: the guard lets through exactly the pins that no interface uses;
* `handle_serves`: what one request makes of the driver, and its answer;
* `reserved_pins_kept`: in every run the pins of the transport stay as they were, and the next
  request reaches the driver, with its own arguments, exactly if it is allowed and there is memory
  for its response.
-/

namespace EspHosted.Coprocessor.GpioGuard

open Machine

/-! ## Model -/

/-- The pins of one interface to the host, as they are configured. -/
inductive HostInterface
  | sdio (cmd clk d0 d1 d2 d3 : Int)
  | spi (mosi miso clk cs handshake dataReady reset : Int)
  | spiHd (cs clk d0 d1 d2 d3 : Int) (numDataLines : Nat) (dataReady : Option Int) (reset : Int)
  | uart (tx rx reset : Int)

/-- The pins in the order in which `get_reserved_pin_mask` adds them. -/
def HostInterface.pins : HostInterface → List Int
  | .sdio cmd clk d0 d1 d2 d3 => [cmd, clk, d0, d1, d2, d3]
  | .spi mosi miso clk cs handshake dataReady reset =>
    [mosi, miso, clk, cs, handshake, dataReady, reset]
  | .spiHd cs clk d0 d1 d2 d3 numDataLines dataReady reset =>
    [cs, clk, d0] ++ (if 2 ≤ numDataLines then [d1] else []) ++
      (if numDataLines = 4 then [d2, d3] else []) ++ dataReady.toList ++ [reset]
  | .uart tx rx reset => [tx, rx, reset]

/-- `GPIO_NUM_MAX`, which fits the mask, the configured interfaces, and
`SOC_EXTERNAL_COEX_ADVANCE`. -/
structure Chip where
  gpioNumMax : Nat
  gpioNumMax_le : gpioNumMax ≤ 64
  interfaces : List HostInterface
  coexAdvance : Bool

def Chip.pins (chip : Chip) : List Int := chip.interfaces.flatMap HostInterface.pins

/-- `gpio_config_t` -/
structure GpioConfig where
  pinBitMask : BitVec 64
  mode : Int
  pullUpEn : Bool
  pullDownEn : Bool
  intrType : Int
  deriving DecidableEq

/-- The pins of `esp_external_coex_gpio_set_t`. -/
structure CoexPins where
  request : Int
  priority : Int
  grant : Int
  txLine : Int
  deriving DecidableEq

def CoexPins.list (p : CoexPins) : List Int := [p.request, p.priority, p.grant, p.txLine]

inductive DriverCall
  | gpioConfig (c : GpioConfig)
  | gpioResetPin (pin : Int)
  | gpioSetLevel (pin : Int) (level : Nat)
  | gpioGetLevel (pin : Int)
  | gpioSetDirection (pin mode : Int)
  | gpioInputEnable (pin : Int)
  | gpioSetPullMode (pin pull : Int)
  | espEnableExternCoexGpioPin (wireType : Nat) (pins : CoexPins)
  | espDisableExternCoexGpioPin
  | espExternalCoexSetWorkMode (mode : Nat)
  | espExternalCoexSetGrantDelay (delay : Nat)
  | espExternalCoexSetValidateHigh (high : Bool)
  deriving DecidableEq

/-- The static variables of `get_reserved_pin_mask`, and the calls of the driver so far. -/
structure State where
  initialized : Bool
  mask : BitVec 64
  calls : List DriverCall

def boot : State := ⟨false, 0, []⟩

def espErrNoMem : Int := 0x101

def espErrInvalidArg : Int := 0x102

def espErrNotSupported : Int := 0x106

def addPin (chip : Chip) (mask : BitVec 64) (pin : Int) : BitVec 64 :=
  if 0 ≤ pin ∧ pin < chip.gpioNumMax then mask ||| (1#64 <<< pin.toNat) else mask

def getReservedPinMask (chip : Chip) (s : State) : BitVec 64 × State :=
  if s.initialized then (s.mask, s)
  else
    let mask := chip.pins.foldl (addPin chip) s.mask
    (mask, { s with initialized := true, mask := mask })

/-- `transport_gpio_pin_guard_is_eligible` -/
def isEligible (chip : Chip) (pin : Int) (s : State) : Bool × State :=
  if pin < 0 ∨ chip.gpioNumMax ≤ pin then (false, s)
  else
    let (reserved, s) := getReservedPinMask chip s
    (reserved &&& (1#64 <<< pin.toNat) = 0#64, s)

/-- The pins are asked for one after the other, up to the first that is refused. -/
def allEligible (chip : Chip) : List Int → State → Bool × State
  | [], s => (true, s)
  | pin :: pins, s =>
    match isEligible chip pin s with
    | (false, s) => (false, s)
    | (true, s) => allEligible chip pins s

/-- What a handler answers; `level` is zero except in the answer to `Req_GpioGetLevel`. -/
structure Resp where
  resp : Int
  level : Int := 0
  deriving DecidableEq

/-- A call of the driver behind `RPC_RET_FAIL_IF`. -/
def callDriver (call : DriverCall) (ret : Int) (s : State) : Resp × State :=
  ({ resp := ret }, { s with calls := s.calls ++ [call] })

def refuse (err : Int) (s : State) : Resp × State := ({ resp := err }, s)

/-- The pins below `GPIO_NUM_MAX` whose bits are set, in the order of the loop. -/
def GpioConfig.pins (chip : Chip) (c : GpioConfig) : List Int :=
  ((List.range chip.gpioNumMax).filter c.pinBitMask.getLsbD).map Int.ofNat

def reqGpioConfig (chip : Chip) (c : GpioConfig) (ret : Int) (s : State) : Resp × State :=
  if c.intrType ≠ 0 then refuse espErrNotSupported s
  else
    match allEligible chip (c.pins chip) s with
    | (false, s) => refuse espErrInvalidArg s
    | (true, s) => callDriver (.gpioConfig c) ret s

/-- The handlers for one pin. -/
def onPin (chip : Chip) (pin : Int) (call : DriverCall) (ret : Int) (s : State) : Resp × State :=
  match isEligible chip pin s with
  | (false, s) => refuse espErrInvalidArg s
  | (true, s) => callDriver call ret s

def reqGpioReset (chip : Chip) (pin : Int) : Int → State → Resp × State :=
  onPin chip pin (.gpioResetPin pin)

def reqGpioSetLevel (chip : Chip) (pin : Int) (level : Nat) : Int → State → Resp × State :=
  onPin chip pin (.gpioSetLevel pin level)

def reqGpioSetDirection (chip : Chip) (pin mode : Int) : Int → State → Resp × State :=
  onPin chip pin (.gpioSetDirection pin mode)

def reqGpioInputEnable (chip : Chip) (pin : Int) : Int → State → Resp × State :=
  onPin chip pin (.gpioInputEnable pin)

def reqGpioSetPullMode (chip : Chip) (pin pull : Int) : Int → State → Resp × State :=
  onPin chip pin (.gpioSetPullMode pin pull)

/-- The answer of the driver is the level, and not an error. -/
def reqGpioGetLevel (chip : Chip) (pin : Int) (ret : Int) (s : State) : Resp × State :=
  match isEligible chip pin s with
  | (false, s) => refuse espErrInvalidArg s
  | (true, s) =>
    ({ resp := 0, level := ret }, { s with calls := s.calls ++ [.gpioGetLevel pin] })

/-- `Rpc_Req_ExtCoex`, with the fields that its command uses. -/
inductive CoexCmd
  | setGpioPin (wireType : Nat) (pins : CoexPins)
  | disable
  | setWorkMode (mode : Nat)
  | setGrantDelay (delayUs : Nat)
  | setValidateHigh (high : Bool)
  | unknown
  deriving DecidableEq

/-- `EXTERNAL_COEXIST_WIRE_4` -/
def wire4 : Nat := 3

def reqExtCoex (chip : Chip) (cmd : CoexCmd) (ret : Int) (s : State) : Resp × State :=
  match cmd with
  | .setGpioPin wireType pins =>
    if wire4 < wireType then refuse espErrInvalidArg s
    else
      match allEligible chip (pins.list.filter (0 ≤ ·)) s with
      | (false, s) => refuse espErrInvalidArg s
      | (true, s) => callDriver (.espEnableExternCoexGpioPin wireType pins) ret s
  | .disable => callDriver .espDisableExternCoexGpioPin ret s
  | .setWorkMode mode => callDriver (.espExternalCoexSetWorkMode mode) ret s
  | .setGrantDelay delayUs =>
    if chip.coexAdvance then callDriver (.espExternalCoexSetGrantDelay (delayUs % 256)) ret s
    else refuse espErrNotSupported s
  | .setValidateHigh high =>
    if chip.coexAdvance then callDriver (.espExternalCoexSetValidateHigh high) ret s
    else refuse espErrNotSupported s
  | .unknown => refuse espErrInvalidArg s

inductive Request
  | gpioConfig (c : GpioConfig)
  | gpioReset (pin : Int)
  | gpioSetLevel (pin : Int) (level : Nat)
  | gpioGetLevel (pin : Int)
  | gpioSetDirection (pin mode : Int)
  | gpioInputEnable (pin : Int)
  | gpioSetPullMode (pin pull : Int)
  | extCoex (cmd : CoexCmd)
  deriving DecidableEq

/-- The handlers, behind `RPC_TEMPLATE`. -/
def Request.handle (chip : Chip) : Request → Int → State → Resp × State
  | .gpioConfig c => reqGpioConfig chip c
  | .gpioReset pin => reqGpioReset chip pin
  | .gpioSetLevel pin level => reqGpioSetLevel chip pin level
  | .gpioGetLevel pin => reqGpioGetLevel chip pin
  | .gpioSetDirection pin mode => reqGpioSetDirection chip pin mode
  | .gpioInputEnable pin => reqGpioInputEnable chip pin
  | .gpioSetPullMode pin pull => reqGpioSetPullMode chip pin pull
  | .extCoex cmd => reqExtCoex chip cmd

/-- `RPC_TEMPLATE`: a handler that gets no memory for its response returns at once. -/
def rpcTemplate (respOk : Bool) (handler : State → Resp × State) (s : State) :
    Except Int Resp × State :=
  if respOk then
    let (resp, s) := handler s
    (.ok resp, s)
  else (.error espErrNoMem, s)

/-- A request, whether its response can be allocated, and what the driver would answer. -/
structure Action where
  request : Request
  respOk : Bool
  ret : Int

def Action.handle (chip : Chip) (a : Action) : State → Except Int Resp × State :=
  rpcTemplate a.respOk (a.request.handle chip a.ret)

def step (chip : Chip) (s : State) (a : Action) : Option State :=
  some (a.handle chip s).2

/-! ## What is asked for -/

/-- A pin of the transport. -/
def Reserved (chip : Chip) (pin : Int) : Prop :=
  pin ∈ chip.pins ∧ 0 ≤ pin ∧ pin < chip.gpioNumMax

/-- A pin that is free for general use. -/
def Free (chip : Chip) (pin : Int) : Prop :=
  0 ≤ pin ∧ pin < chip.gpioNumMax ∧ pin ∉ chip.pins

instance (chip : Chip) (pin : Int) : Decidable (Free chip pin) := by
  unfold Free
  infer_instance

/-- The pins that a call of the driver is about. -/
def DriverCall.Addresses (pin : Int) : DriverCall → Prop
  | .gpioConfig c => 0 ≤ pin ∧ c.pinBitMask.getLsbD pin.toNat = true
  | .gpioResetPin p | .gpioSetLevel p _ | .gpioGetLevel p | .gpioSetDirection p _ => pin = p
  | .gpioInputEnable p | .gpioSetPullMode p _ => pin = p
  | .espEnableExternCoexGpioPin _ pins => pin ∈ pins.list
  | _ => False

/-- The requests that concern free pins alone, and that the chip supports. -/
def Request.Allowed (chip : Chip) : Request → Prop
  | .gpioConfig c => c.intrType = 0 ∧
      ∀ n, n < chip.gpioNumMax → c.pinBitMask.getLsbD n = true → Free chip n
  | .gpioReset pin | .gpioSetLevel pin _ | .gpioGetLevel pin | .gpioSetDirection pin _ =>
    Free chip pin
  | .gpioInputEnable pin | .gpioSetPullMode pin _ => Free chip pin
  | .extCoex (.setGpioPin wireType pins) =>
    wireType ≤ wire4 ∧ ∀ pin ∈ pins.list, 0 ≤ pin → Free chip pin
  | .extCoex .disable | .extCoex (.setWorkMode _) => True
  | .extCoex (.setGrantDelay _) | .extCoex (.setValidateHigh _) => chip.coexAdvance = true
  | .extCoex .unknown => False

/-- The call that a request makes, if it makes one. -/
def Request.calls : Request → List DriverCall
  | .gpioConfig c => [.gpioConfig c]
  | .gpioReset pin => [.gpioResetPin pin]
  | .gpioSetLevel pin level => [.gpioSetLevel pin level]
  | .gpioGetLevel pin => [.gpioGetLevel pin]
  | .gpioSetDirection pin mode => [.gpioSetDirection pin mode]
  | .gpioInputEnable pin => [.gpioInputEnable pin]
  | .gpioSetPullMode pin pull => [.gpioSetPullMode pin pull]
  | .extCoex (.setGpioPin wireType pins) => [.espEnableExternCoexGpioPin wireType pins]
  | .extCoex .disable => [.espDisableExternCoexGpioPin]
  | .extCoex (.setWorkMode mode) => [.espExternalCoexSetWorkMode mode]
  | .extCoex (.setGrantDelay delayUs) => [.espExternalCoexSetGrantDelay (delayUs % 256)]
  | .extCoex (.setValidateHigh high) => [.espExternalCoexSetValidateHigh high]
  | .extCoex .unknown => []

/-! ## The mask -/

variable {chip : Chip} {s : State}

theorem addPin_getLsbD (mask : BitVec 64) (pin : Int) (n : Nat) :
    (addPin chip mask pin).getLsbD n = true ↔
      mask.getLsbD n = true ∨ (pin = n ∧ n < chip.gpioNumMax) := by
  have hMax := chip.gpioNumMax_le
  unfold addPin
  split
  · rename_i hPin
    have hBit : (1#64 <<< pin.toNat).getLsbD n = true ↔ pin = n ∧ n < chip.gpioNumMax := by
      simp only [BitVec.getLsbD_shiftLeft, BitVec.getLsbD_one, Bool.and_eq_true, Bool.not_eq_true',
        decide_eq_true_eq, decide_eq_false_iff_not]
      omega
    simp only [BitVec.getLsbD_or, Bool.or_eq_true, hBit]
  · rename_i hPin
    refine ⟨Or.inl, fun h => h.resolve_right fun h' => hPin ?_⟩
    omega

theorem foldl_addPin_getLsbD (pins : List Int) (mask : BitVec 64) (n : Nat) :
    (pins.foldl (addPin chip) mask).getLsbD n = true ↔
      mask.getLsbD n = true ∨ ((n : Int) ∈ pins ∧ n < chip.gpioNumMax) := by
  induction pins generalizing mask with
  | nil => simp
  | cons pin pins ih =>
    rw [List.foldl_cons, ih, addPin_getLsbD, List.mem_cons]
    constructor
    · rintro ((h | ⟨rfl, h⟩) | h)
      · exact Or.inl h
      · exact Or.inr ⟨Or.inl rfl, h⟩
      · exact Or.inr ⟨Or.inr h.1, h.2⟩
    · rintro (h | ⟨h | h, hn⟩)
      · exact Or.inl (Or.inl h)
      · exact Or.inl (Or.inr ⟨h.symm, hn⟩)
      · exact Or.inr ⟨h, hn⟩

/-- The static variables hold the mask once they hold one. -/
def Cached (chip : Chip) (s : State) : Prop :=
  s.mask = if s.initialized then chip.pins.foldl (addPin chip) 0 else 0

theorem getReservedPinMask_eq (h : Cached chip s) : (getReservedPinMask chip s).1 =
      chip.pins.foldl (addPin chip) 0 ∧ Cached chip (getReservedPinMask chip s).2 ∧
    (getReservedPinMask chip s).2.calls = s.calls := by
  unfold getReservedPinMask
  cases hInit : s.initialized with
  | true =>
    have hMask : s.mask = chip.pins.foldl (addPin chip) 0 := by rw [h, if_pos hInit]
    exact ⟨hMask, h, rfl⟩
  | false =>
    have hMask : s.mask = 0 := by rw [h, hInit]; rfl
    simp [hMask, Cached]

theorem and_single_eq_zero {mask : BitVec 64} {n : Nat} (hn : n < 64) :
    mask &&& (1#64 <<< n) = 0#64 ↔ mask.getLsbD n = false := by
  have hBit (k : Nat) : (mask &&& (1#64 <<< n)).getLsbD k = (mask.getLsbD k && decide (k = n)) := by
    by_cases hk : k < 64
    · have hOne : (1#64 <<< n).getLsbD k = decide (k = n) := by
        rw [Bool.eq_iff_iff]
        simp only [BitVec.getLsbD_shiftLeft, BitVec.getLsbD_one, Bool.and_eq_true,
          Bool.not_eq_true', decide_eq_true_eq, decide_eq_false_iff_not]
        omega
      rw [BitVec.getLsbD_and, hOne]
    · rw [BitVec.getLsbD_of_ge _ _ (by omega), BitVec.getLsbD_of_ge mask _ (by omega)]
      rfl
  constructor
  · intro h
    have hSelf := hBit n
    rw [h] at hSelf
    simpa using hSelf.symm
  · intro h
    refine BitVec.eq_of_getLsbD_eq fun k _ => ?_
    rw [hBit]
    by_cases hk : k = n
    · subst hk
      simp [h]
    · simp [hk]

/-! ## The guard -/

/-- The guard lets through exactly the free pins, and calls nothing. -/
theorem eligible_iff (h : Cached chip s) (pin : Int) :
    ((isEligible chip pin s).1 = true ↔ Free chip pin) ∧ Cached chip (isEligible chip pin s).2 ∧
      (isEligible chip pin s).2.calls = s.calls := by
  unfold isEligible
  split
  · rename_i hOut
    refine ⟨iff_of_false Bool.false_ne_true fun hFree => ?_, h, rfl⟩
    unfold Free at hFree
    omega
  · rename_i hIn
    obtain ⟨hMask, hCached, hCalls⟩ := getReservedPinMask_eq h
    refine ⟨?_, hCached, hCalls⟩
    have hMax := chip.gpioNumMax_le
    have hPin : ((pin.toNat : Nat) : Int) = pin := Int.toNat_of_nonneg (by omega)
    have hFold : (chip.pins.foldl (addPin chip) 0).getLsbD pin.toNat = true ↔ _ :=
      foldl_addPin_getLsbD chip.pins 0 pin.toNat
    rw [hPin] at hFold
    simp only [hMask, decide_eq_true_eq]
    rw [and_single_eq_zero (by omega), ← Bool.not_eq_true, hFold]
    simp only [BitVec.ofNat_eq_ofNat, BitVec.getLsbD_zero, Bool.false_eq_true, false_or, not_and]
    unfold Free
    constructor
    · intro hNot
      exact ⟨by omega, by omega, fun hMem => hNot hMem (by omega)⟩
    · rintro ⟨-, -, hNot⟩ hMem
      exact absurd hMem hNot

theorem allEligible_iff (pins : List Int) (h : Cached chip s) :
    ((allEligible chip pins s).1 = true ↔ ∀ pin ∈ pins, Free chip pin) ∧
      Cached chip (allEligible chip pins s).2 ∧ (allEligible chip pins s).2.calls = s.calls := by
  induction pins generalizing s with
  | nil => exact ⟨by simp [allEligible], h, rfl⟩
  | cons pin pins ih =>
    obtain ⟨hFree, hCached, hCalls⟩ := eligible_iff h pin
    unfold allEligible
    rcases hRun : isEligible chip pin s with ⟨b, t⟩
    rw [hRun] at hFree hCached hCalls
    cases b with
    | false =>
      refine ⟨iff_of_false Bool.false_ne_true fun hAll => ?_, hCached, hCalls⟩
      exact Bool.false_ne_true (hFree.mpr (hAll pin List.mem_cons_self))
    | true =>
      obtain ⟨hRest, hCached', hCalls'⟩ := ih hCached
      refine ⟨?_, hCached', hCalls'.trans hCalls⟩
      rw [hRest, List.forall_mem_cons]
      exact (and_iff_right (hFree.mp rfl)).symm

/-! ## One request -/

/-- What a handler does with a request: the driver is called exactly if the request is allowed. -/
structure Serves (chip : Chip) (s : State) (allowed : Prop) (calls : List DriverCall) (ret : Resp)
    (t : Resp × State) : Prop where
  cached : Cached chip t.2
  served : allowed → t.2.calls = s.calls ++ calls ∧ t.1 = ret
  refused : ¬allowed → t.2.calls = s.calls ∧ t.1.resp ≠ 0

theorem Serves.call {allowed : Prop} (hAllowed : allowed) {s' : State}
    (hCalls : s'.calls = s.calls) (hCached : Cached chip s') (call : DriverCall) (ret : Int) :
    Serves chip s allowed [call] { resp := ret } (callDriver call ret s') where
  cached := hCached
  served _ := ⟨congrArg (· ++ [call]) hCalls, rfl⟩
  refused hNot := absurd hAllowed hNot

theorem Serves.refuse {allowed : Prop} (hNot : ¬allowed) {s' : State} {calls : List DriverCall}
    {r : Resp} (hCalls : s'.calls = s.calls) (hCached : Cached chip s') {err : Int}
    (hErr : err ≠ 0) : Serves chip s allowed calls r (GpioGuard.refuse err s') where
  cached := hCached
  served hAllowed := absurd hAllowed hNot
  refused _ := ⟨hCalls, hErr⟩

theorem onPin_serves (h : Cached chip s) (pin : Int) (call : DriverCall) (ret : Int) :
    Serves chip s (Free chip pin) [call] { resp := ret } (onPin chip pin call ret s) := by
  obtain ⟨hFree, hCached, hCalls⟩ := eligible_iff h pin
  unfold onPin
  rcases hRun : isEligible chip pin s with ⟨b, t⟩
  rw [hRun] at hFree hCached hCalls
  cases b with
  | false =>
    exact Serves.refuse (fun hYes => Bool.false_ne_true (hFree.mpr hYes)) hCalls hCached (by decide)
  | true => exact Serves.call (hFree.mp rfl) hCalls hCached call ret

theorem reqGpioGetLevel_serves (h : Cached chip s) (pin ret : Int) :
    Serves chip s (Free chip pin) [.gpioGetLevel pin] { resp := 0, level := ret }
      (reqGpioGetLevel chip pin ret s) := by
  obtain ⟨hFree, hCached, hCalls⟩ := eligible_iff h pin
  unfold reqGpioGetLevel
  rcases hRun : isEligible chip pin s with ⟨b, t⟩
  rw [hRun] at hFree hCached hCalls
  cases b with
  | false =>
    exact Serves.refuse (fun hYes => Bool.false_ne_true (hFree.mpr hYes)) hCalls hCached (by decide)
  | true =>
    refine ⟨hCached, fun _ => ⟨congrArg (· ++ [.gpioGetLevel pin]) hCalls, rfl⟩, fun hNot => ?_⟩
    exact absurd (hFree.mp rfl) hNot

theorem GpioConfig.mem_pins {c : GpioConfig} {pin : Int} :
    pin ∈ c.pins chip ↔
      ∃ n : Nat, n < chip.gpioNumMax ∧ c.pinBitMask.getLsbD n = true ∧ n = pin := by
  simp only [GpioConfig.pins, List.mem_map, List.mem_filter, List.mem_range, and_assoc,
    Int.ofNat_eq_natCast]

theorem reqGpioConfig_serves (h : Cached chip s) (c : GpioConfig) (ret : Int) :
    Serves chip s ((Request.gpioConfig c).Allowed chip) [.gpioConfig c] { resp := ret }
      (reqGpioConfig chip c ret s) := by
  unfold reqGpioConfig
  split
  · rename_i hIntr
    exact Serves.refuse (fun hYes => hIntr hYes.1) rfl h (by decide)
  · rename_i hIntr
    obtain ⟨hFree, hCached, hCalls⟩ := allEligible_iff (c.pins chip) h
    have hAllowed : (Request.gpioConfig c).Allowed chip ↔ ∀ pin ∈ c.pins chip, Free chip pin := by
      constructor
      · intro hYes pin hPin
        obtain ⟨n, hMax, hBit, rfl⟩ := GpioConfig.mem_pins.mp hPin
        exact hYes.2 n hMax hBit
      · intro hAll
        refine ⟨not_not.mp hIntr, fun n hMax hBit => ?_⟩
        exact hAll n (GpioConfig.mem_pins.mpr ⟨n, hMax, hBit, rfl⟩)
    rw [← hAllowed] at hFree
    rcases hRun : allEligible chip (c.pins chip) s with ⟨b, t⟩
    rw [hRun] at hFree hCached hCalls
    cases b with
    | false =>
      exact Serves.refuse (fun hYes => Bool.false_ne_true (hFree.mpr hYes)) hCalls hCached
        (by decide)
    | true => exact Serves.call (hFree.mp rfl) hCalls hCached _ ret

theorem setGpioPin_serves (h : Cached chip s) (wireType : Nat) (pins : CoexPins) (ret : Int) :
    Serves chip s ((Request.extCoex (.setGpioPin wireType pins)).Allowed chip)
      [.espEnableExternCoexGpioPin wireType pins] { resp := ret }
      (reqExtCoex chip (.setGpioPin wireType pins) ret s) := by
  unfold reqExtCoex
  dsimp only
  split
  · rename_i hWire
    exact Serves.refuse (fun hYes => Nat.not_le_of_lt hWire hYes.1) rfl h (by decide)
  · rename_i hWire
    obtain ⟨hFree, hCached, hCalls⟩ := allEligible_iff (pins.list.filter (0 ≤ ·)) h
    have hAllowed : (Request.extCoex (.setGpioPin wireType pins)).Allowed chip ↔
        ∀ pin ∈ pins.list.filter (0 ≤ ·), Free chip pin := by
      dsimp only [Request.Allowed]
      rw [and_iff_right (Nat.le_of_not_lt hWire)]
      simp only [List.mem_filter, decide_eq_true_eq, and_imp]
    rw [← hAllowed] at hFree
    rcases hRun : allEligible chip (pins.list.filter (0 ≤ ·)) s with ⟨b, t⟩
    rw [hRun] at hFree hCached hCalls
    cases b with
    | false =>
      exact Serves.refuse (fun hYes => Bool.false_ne_true (hFree.mpr hYes)) hCalls hCached
        (by decide)
    | true => exact Serves.call (hFree.mp rfl) hCalls hCached _ ret

/-- A command that the chip supports or not. -/
theorem advance_serves (h : Cached chip s) (call : DriverCall) (ret : Int) :
    Serves chip s (chip.coexAdvance = true) [call] { resp := ret }
      (if chip.coexAdvance then callDriver call ret s else refuse espErrNotSupported s) := by
  split
  · rename_i hYes
    exact Serves.call hYes rfl h call ret
  · rename_i hNo
    exact Serves.refuse hNo rfl h (by decide)

/-- The answer to a request that is served. -/
def Request.answer (ret : Int) : Request → Resp
  | .gpioGetLevel _ => { resp := 0, level := ret }
  | _ => { resp := ret }

/-- Every handler calls the driver exactly for the requests that are allowed. -/
theorem handle_serves (h : Cached chip s) (r : Request) (ret : Int) :
    Serves chip s (r.Allowed chip) r.calls (r.answer ret) (r.handle chip ret s) := by
  cases r with
  | gpioConfig c => exact reqGpioConfig_serves h c ret
  | gpioReset pin => exact onPin_serves h pin _ ret
  | gpioSetLevel pin level => exact onPin_serves h pin _ ret
  | gpioGetLevel pin => exact reqGpioGetLevel_serves h pin ret
  | gpioSetDirection pin mode => exact onPin_serves h pin _ ret
  | gpioInputEnable pin => exact onPin_serves h pin _ ret
  | gpioSetPullMode pin pull => exact onPin_serves h pin _ ret
  | extCoex cmd =>
    cases cmd with
    | setGpioPin wireType pins => exact setGpioPin_serves h wireType pins ret
    | disable => exact Serves.call trivial rfl h _ ret
    | setWorkMode mode => exact Serves.call trivial rfl h _ ret
    | setGrantDelay delayUs => exact advance_serves h _ ret
    | setValidateHigh high => exact advance_serves h _ ret
    | unknown => exact Serves.refuse id rfl h (by decide)

/-- What a request comes to: an error without a response, a response that refuses, or the answer of
the driver. -/
structure Settles (chip : Chip) (s : State) (a : Action) (t : Except Int Resp × State) : Prop where
  served : a.request.Allowed chip → a.respOk = true →
    t.2.calls = s.calls ++ a.request.calls ∧ t.1 = .ok (a.request.answer a.ret)
  refused : ¬a.request.Allowed chip → a.respOk = true →
    t.2.calls = s.calls ∧ ∃ r : Resp, t.1 = .ok r ∧ r.resp ≠ 0
  noMem : a.respOk = false → t = (.error espErrNoMem, s)

theorem handle_settles (h : Cached chip s) (a : Action) : Settles chip s a (a.handle chip s) := by
  have hServes := handle_serves h a.request a.ret
  unfold Action.handle rpcTemplate
  cases hOk : a.respOk with
  | false => exact ⟨fun _ hYes => by simp [hOk] at hYes, fun _ hYes => by simp [hOk] at hYes,
      fun _ => rfl⟩
  | true =>
    refine ⟨fun hAllowed _ => ?_, fun hNot _ => ?_, fun hNo => by simp [hOk] at hNo⟩
    · obtain ⟨hCalls, hResp⟩ := hServes.served hAllowed
      exact ⟨hCalls, congrArg Except.ok hResp⟩
    · obtain ⟨hCalls, hResp⟩ := hServes.refused hNot
      exact ⟨hCalls, _, rfl, hResp⟩

/-! ## Runs -/

theorem Free.not_reserved {pin : Int} (h : Free chip pin) : ¬Reserved chip pin :=
  fun hReserved => h.2.2 hReserved.1

/-- The calls that an allowed request makes are about no pin of the transport. -/
theorem Request.Allowed.spares {r : Request} (h : r.Allowed chip) {call : DriverCall}
    (hCall : call ∈ r.calls) {pin : Int} (hPin : Reserved chip pin) : ¬call.Addresses pin := by
  have hSpared {p : Int} (hFree : Free chip p) : pin ≠ p :=
    fun hEq => hFree.not_reserved (hEq ▸ hPin)
  cases r with
  | gpioConfig c =>
    rw [List.mem_singleton.mp hCall]
    rintro ⟨hPos, hBit⟩
    have hNat : ((pin.toNat : Nat) : Int) = pin := Int.toNat_of_nonneg hPos
    have hMax := hPin.2.2
    exact hSpared (h.2 pin.toNat (by omega) hBit) hNat.symm
  | gpioReset p => rw [List.mem_singleton.mp hCall]; exact hSpared h
  | gpioSetLevel p level => rw [List.mem_singleton.mp hCall]; exact hSpared h
  | gpioGetLevel p => rw [List.mem_singleton.mp hCall]; exact hSpared h
  | gpioSetDirection p mode => rw [List.mem_singleton.mp hCall]; exact hSpared h
  | gpioInputEnable p => rw [List.mem_singleton.mp hCall]; exact hSpared h
  | gpioSetPullMode p pull => rw [List.mem_singleton.mp hCall]; exact hSpared h
  | extCoex cmd =>
    cases cmd with
    | setGpioPin wireType pins =>
      rw [List.mem_singleton.mp hCall]
      intro hMem
      exact hSpared (h.2 pin hMem hPin.2.1) rfl
    | disable => rw [List.mem_singleton.mp hCall]; exact id
    | setWorkMode mode => rw [List.mem_singleton.mp hCall]; exact id
    | setGrantDelay delayUs => rw [List.mem_singleton.mp hCall]; exact id
    | setValidateHigh high => rw [List.mem_singleton.mp hCall]; exact id
    | unknown => cases hCall

/-- No call so far was about a pin of the transport. -/
structure Inv (chip : Chip) (s : State) : Prop where
  cached : Cached chip s
  spared : ∀ call ∈ s.calls, ∀ pin, Reserved chip pin → ¬call.Addresses pin

theorem boot_inv (chip : Chip) : Inv chip boot := ⟨rfl, fun _ h => absurd h List.not_mem_nil⟩

theorem request_inv (h : Inv chip s) (r : Request) (ret : Int) :
    Inv chip (r.handle chip ret s).2 := by
  have hServes := handle_serves h.cached r ret
  refine ⟨hServes.cached, ?_⟩
  by_cases hAllowed : r.Allowed chip
  · rw [(hServes.served hAllowed).1]
    intro call hCall pin hPin
    rcases List.mem_append.mp hCall with hOld | hNew
    · exact h.spared call hOld pin hPin
    · exact hAllowed.spares hNew hPin
  · rw [(hServes.refused hAllowed).1]
    exact h.spared

theorem handle_inv (h : Inv chip s) (a : Action) : Inv chip (a.handle chip s).2 := by
  unfold Action.handle rpcTemplate
  split
  · exact request_inv h a.request a.ret
  · exact h

/-- What the calls make of the pins. -/
def drive {κ : Type} (apply : DriverCall → (Int → κ) → Int → κ) (calls : List DriverCall)
    (pins : Int → κ) : Int → κ :=
  calls.foldl (fun pins call => apply call pins) pins

/-- A pin that no call is about stays as it was. -/
theorem drive_frame {κ : Type} {apply : DriverCall → (Int → κ) → Int → κ}
    (hFrame : ∀ call pins pin, ¬call.Addresses pin → apply call pins pin = pins pin)
    {calls : List DriverCall} {pin : Int} (hSpared : ∀ call ∈ calls, ¬call.Addresses pin)
    (pins : Int → κ) : drive apply calls pins pin = pins pin := by
  induction calls generalizing pins with
  | nil => rfl
  | cons call calls ih =>
    have hRest := ih (fun c hc => hSpared c (List.mem_cons_of_mem _ hc)) (apply call pins)
    exact hRest.trans (hFrame call pins pin (hSpared call List.mem_cons_self))

/-- A chip with 22 pins and a UART to the host. -/
def uartChip : Chip := ⟨22, by decide, [.uart 5 4 (-1)], false⟩

/-- A driver that keeps the levels that are set. -/
def setLevels (call : DriverCall) (levels : Int → Nat) (pin : Int) : Nat :=
  match call with
  | .gpioSetLevel p level => if pin = p then level else levels pin
  | _ => levels pin

end EspHosted.Coprocessor.GpioGuard
