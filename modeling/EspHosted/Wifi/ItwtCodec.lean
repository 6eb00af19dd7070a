import EspHosted.Lib.BitMask
import Mathlib.Algebra.Group.Nat.Defs
import Mathlib.Data.Bool.Basic

/-!
# iTWT setup on the wire

The host composes a setup request that the co-processor decodes for its driver, and the
co-processor composes a setup event that the host decodes. Flags and small fields share a word of
the message. The types of the host are wider than those of the driver, and the host takes the
reserved bits out of the word by another formula than the co-processor.

* `getBit_pack`, `getField_pack`: every field of the word is in a place of its own;
* `itwtSetup_decode`: what the driver gets, whatever the host asks for;
* `itwt_iff`: exactly when a request and an event arrive unchanged, and when the two decoders agree.
-/

namespace EspHosted.Wifi.ItwtCodec

open BitMask

/-! ## Model -/

/-- `H_DECODE_WIFI_RESERVED_FIELD` of the host; the co-processor has it. -/
structure Build where
  hostReserved : Bool

/-- `h_wifi_twt_setup_config_t` -/
structure SetupConfig where
  setupCmd : BitVec 8
  trigger : BitVec 8
  flowType : BitVec 8
  flowId : BitVec 8
  wakeInvlExpn : BitVec 8
  wakeDurationUnit : BitVec 8
  reserved : BitVec 8
  minWakeDura : BitVec 8
  wakeInvlMant : BitVec 16
  twtId : BitVec 8
  timeoutTimeMs : BitVec 32

/-- `wifi_itwt_setup_config_t` of the driver. -/
structure DriverConfig where
  setupCmd : BitVec 32
  trigger : Bool
  flowType : Bool
  flowId : BitVec 3
  wakeInvlExpn : BitVec 5
  wakeDurationUnit : Bool
  reserved : BitVec 5
  minWakeDura : BitVec 8
  wakeInvlMant : BitVec 16
  twtId : BitVec 16
  timeoutTimeMs : BitVec 16
  deriving DecidableEq

/-- `h_event_wifi_itwt_setup_config_t` -/
structure EventConfig where
  setupCmd : BitVec 16
  trigger : BitVec 8
  flowType : BitVec 8
  flowId : BitVec 8
  wakeInvlExpn : BitVec 8
  wakeDurationUnit : BitVec 8
  reserved : BitVec 16
  minWakeDura : BitVec 8
  wakeInvlMant : BitVec 16
  twtId : BitVec 16
  timeoutTimeMs : BitVec 16
  deriving DecidableEq

/-- `WifiItwtSetupConfig` -/
structure Msg where
  setupCmd : BitVec 32
  bitmask1 : BitVec 32
  minWakeDura : BitVec 32
  wakeInvlMant : BitVec 32
  twtId : BitVec 32
  timeoutTimeMs : BitVec 32

def triggerBit : Nat := 0
def flowTypeBit : Nat := 1
def flowIdBit : Nat := 2
def wakeInvlExpnBit : Nat := 5
def wakeDurationUnitBit : Nat := 10
def maxUsedBit : Nat := 11
def reservedBitmask : BitVec 32 := 0xFFFFF800#32

/-- A field that is put at its place if it is not zero. -/
def orField {n : Nat} (w pos : Nat) (value : BitVec n) (word : BitVec 32) : BitVec 32 :=
  if value = 0#n then word else setField pos (value.setWidth w) word

/-- `compose_rpc_req` -/
def composeItwtSetup (b : Build) (c : SetupConfig) : Msg :=
  let word := setBit triggerBit (c.trigger ≠ 0#8) 0#32
  let word := setBit flowTypeBit (c.flowType ≠ 0#8) word
  let word := orField 3 flowIdBit c.flowId word
  let word := orField 5 wakeInvlExpnBit c.wakeInvlExpn word
  let word := setBit wakeDurationUnitBit (c.wakeDurationUnit ≠ 0#8) word
  let word := if b.hostReserved then setField maxUsedBit c.reserved word else word
  { setupCmd := c.setupCmd.setWidth 32, bitmask1 := word
    minWakeDura := c.minWakeDura.setWidth 32, wakeInvlMant := c.wakeInvlMant.setWidth 32
    twtId := c.twtId.setWidth 32, timeoutTimeMs := c.timeoutTimeMs }

/-- `WIFI_ITWT_CONFIG_1_GET_RESERVED_VAL`, as many bits of it as the driver has. -/
def slaveReserved (word : BitVec 32) : BitVec 5 :=
  ((word &&& reservedBitmask) >>> maxUsedBit).setWidth 5

/-- `req_wifi_sta_itwt_setup`, up to the call of the driver. -/
def reqWifiStaItwtSetup (m : Msg) : DriverConfig :=
  { setupCmd := m.setupCmd
    trigger := getBit triggerBit m.bitmask1
    flowType := getBit flowTypeBit m.bitmask1
    flowId := getField 3 flowIdBit m.bitmask1
    wakeInvlExpn := getField 5 wakeInvlExpnBit m.bitmask1
    wakeDurationUnit := getBit wakeDurationUnitBit m.bitmask1
    reserved := slaveReserved m.bitmask1
    minWakeDura := m.minWakeDura.setWidth 8
    wakeInvlMant := m.wakeInvlMant.setWidth 16
    twtId := m.twtId.setWidth 16
    timeoutTimeMs := m.timeoutTimeMs.setWidth 16 }

/-- `wifi_event_sta_itwt_setup_t` -/
structure DriverEvent where
  config : DriverConfig
  status : BitVec 32
  reason : BitVec 8
  targetWakeTime : BitVec 64

/-- `RpcEventStaItwtSetup` -/
structure EventMsg where
  config : Msg
  status : BitVec 32
  reason : BitVec 32
  targetWakeTime : BitVec 64

/-- `h_event_wifi_sta_itwt_setup_t` -/
structure HostEvent where
  config : EventConfig
  status : BitVec 32
  reason : BitVec 8
  targetWakeTime : BitVec 64

/-- `rpc_evt_itwt_setup` -/
def rpcEvtItwtSetup (e : DriverEvent) : EventMsg :=
  let word := setBit triggerBit e.config.trigger 0#32
  let word := setBit flowTypeBit e.config.flowType word
  let word := orField 3 flowIdBit e.config.flowId word
  let word := orField 5 wakeInvlExpnBit e.config.wakeInvlExpn word
  let word := setBit wakeDurationUnitBit e.config.wakeDurationUnit word
  let word := setField maxUsedBit e.config.reserved word
  { config :=
      { setupCmd := e.config.setupCmd, bitmask1 := word
        minWakeDura := e.config.minWakeDura.setWidth 32
        wakeInvlMant := e.config.wakeInvlMant.setWidth 32
        twtId := e.config.twtId.setWidth 32
        timeoutTimeMs := e.config.timeoutTimeMs.setWidth 32 }
    status := e.status, reason := e.reason.setWidth 32, targetWakeTime := e.targetWakeTime }

/-- The number that a flag is for the host. -/
def flag (on : Bool) : BitVec 8 := if on then 1#8 else 0#8

/-- The reserved bits in `rpc_parse_evt`, shifted and then masked; zero in builds without them. -/
def hostReservedBits (b : Build) (word : BitVec 32) : BitVec 16 :=
  if b.hostReserved then ((word >>> maxUsedBit) &&& reservedBitmask).setWidth 16 else 0#16

/-- `rpc_parse_evt`, the configuration. -/
def parseConfig (b : Build) (m : Msg) : EventConfig :=
  { setupCmd := m.setupCmd.setWidth 16
    trigger := flag (getBit triggerBit m.bitmask1)
    flowType := flag (getBit flowTypeBit m.bitmask1)
    flowId := (getField 3 flowIdBit m.bitmask1).setWidth 8
    wakeInvlExpn := (getField 5 wakeInvlExpnBit m.bitmask1).setWidth 8
    wakeDurationUnit := flag (getBit wakeDurationUnitBit m.bitmask1)
    reserved := hostReservedBits b m.bitmask1
    minWakeDura := m.minWakeDura.setWidth 8
    wakeInvlMant := m.wakeInvlMant.setWidth 16
    twtId := m.twtId.setWidth 16
    timeoutTimeMs := m.timeoutTimeMs.setWidth 16 }

/-- `rpc_parse_evt` -/
def rpcParseEvt (b : Build) (m : EventMsg) : HostEvent :=
  { config := parseConfig b m.config, status := m.status, reason := m.reason.setWidth 8
    targetWakeTime := m.targetWakeTime }

/-! ## The same configuration -/

/-- The driver has what the host asks for. -/
structure SetupConfig.Same (c : SetupConfig) (d : DriverConfig) : Prop where
  setupCmd : d.setupCmd.toNat = c.setupCmd.toNat
  trigger : d.trigger.toNat = c.trigger.toNat
  flowType : d.flowType.toNat = c.flowType.toNat
  flowId : d.flowId.toNat = c.flowId.toNat
  wakeInvlExpn : d.wakeInvlExpn.toNat = c.wakeInvlExpn.toNat
  wakeDurationUnit : d.wakeDurationUnit.toNat = c.wakeDurationUnit.toNat
  reserved : d.reserved.toNat = c.reserved.toNat
  minWakeDura : d.minWakeDura = c.minWakeDura
  wakeInvlMant : d.wakeInvlMant = c.wakeInvlMant
  twtId : d.twtId.toNat = c.twtId.toNat
  timeoutTimeMs : d.timeoutTimeMs.toNat = c.timeoutTimeMs.toNat

/-- The fields that share the word. -/
structure DriverConfig.SameBits (d : DriverConfig) (c : EventConfig) : Prop where
  trigger : c.trigger.toNat = d.trigger.toNat
  flowType : c.flowType.toNat = d.flowType.toNat
  flowId : c.flowId.toNat = d.flowId.toNat
  wakeInvlExpn : c.wakeInvlExpn.toNat = d.wakeInvlExpn.toNat
  wakeDurationUnit : c.wakeDurationUnit.toNat = d.wakeDurationUnit.toNat
  reserved : c.reserved.toNat = d.reserved.toNat

/-- The host has what the driver reports. -/
structure DriverEvent.Same (e : DriverEvent) (h : HostEvent) : Prop where
  setupCmd : h.config.setupCmd.toNat = e.config.setupCmd.toNat
  bits : e.config.SameBits h.config
  minWakeDura : h.config.minWakeDura = e.config.minWakeDura
  wakeInvlMant : h.config.wakeInvlMant = e.config.wakeInvlMant
  twtId : h.config.twtId = e.config.twtId
  timeoutTimeMs : h.config.timeoutTimeMs = e.config.timeoutTimeMs
  status : h.status = e.status
  reason : h.reason = e.reason
  targetWakeTime : h.targetWakeTime = e.targetWakeTime

/-! ## The word -/

/-- The word of these fields. -/
def pack (trigger flowType : Bool) (flowId : BitVec 3) (wakeInvlExpn : BitVec 5)
    (wakeDurationUnit : Bool) {n : Nat} (reserved : BitVec n) : BitVec 32 :=
  setField maxUsedBit reserved (setBit wakeDurationUnitBit wakeDurationUnit
    (setField wakeInvlExpnBit wakeInvlExpn (setField flowIdBit flowId
      (setBit flowTypeBit flowType (setBit triggerBit trigger 0#32)))))

/-- A field that is zero needs no test. -/
theorem orField_eq {n : Nat} (w pos : Nat) (value : BitVec n) (word : BitVec 32) :
    orField w pos value word = setField pos (value.setWidth w) word := by
  unfold orField
  split
  · rename_i hZero
    rw [hZero]
    simp [setField]
  · rfl

variable {trigger flowType wakeDurationUnit : Bool} {flowId : BitVec 3} {wakeInvlExpn : BitVec 5}
  {n : Nat} {reserved : BitVec n}

theorem getLsbD_pack {i : Nat} (hi : i < 32) :
    (pack trigger flowType flowId wakeInvlExpn wakeDurationUnit reserved).getLsbD i =
      ((trigger && decide (i = 0) || flowType && decide (i = 1) ||
        decide (2 ≤ i) && flowId.getLsbD (i - 2) ||
        decide (5 ≤ i) && wakeInvlExpn.getLsbD (i - 5) || wakeDurationUnit && decide (i = 10)) ||
        decide (11 ≤ i) && reserved.getLsbD (i - 11)) := by
  unfold pack triggerBit flowTypeBit flowIdBit wakeInvlExpnBit wakeDurationUnitBit maxUsedBit
  rw [getLsbD_setField _ _ hi]
  simp (disch := first | decide | exact hi) only [getLsbD_setBit, getLsbD_setField,
    BitVec.getLsbD_zero, Bool.false_or]

/-- Every flag is in a place of its own. -/
theorem getBit_pack :
    getBit triggerBit (pack trigger flowType flowId wakeInvlExpn wakeDurationUnit reserved) =
      trigger ∧
    getBit flowTypeBit (pack trigger flowType flowId wakeInvlExpn wakeDurationUnit reserved) =
      flowType ∧
    getBit wakeDurationUnitBit
      (pack trigger flowType flowId wakeInvlExpn wakeDurationUnit reserved) =
        wakeDurationUnit := by
  unfold triggerBit flowTypeBit wakeDurationUnitBit
  refine ⟨?_, ?_, ?_⟩ <;>
  · rw [getBit_eq (by decide), getLsbD_pack (by decide)]
    simp

/-- So is every field. -/
theorem getField_pack :
    getField 3 flowIdBit (pack trigger flowType flowId wakeInvlExpn wakeDurationUnit reserved) =
      flowId ∧
    getField 5 wakeInvlExpnBit
      (pack trigger flowType flowId wakeInvlExpn wakeDurationUnit reserved) = wakeInvlExpn ∧
    getField 21 maxUsedBit
      (pack trigger flowType flowId wakeInvlExpn wakeDurationUnit reserved) =
        reserved.setWidth 21 := by
  unfold flowIdBit wakeInvlExpnBit maxUsedBit
  refine ⟨getField_eq fun i hi => ?_, getField_eq fun i hi => ?_, getField_eq fun i hi => ?_⟩
  · rw [getLsbD_pack (by omega)]
    have hExpn : decide (5 ≤ 2 + i) = false := decide_eq_false (by omega)
    have hRest : decide (11 ≤ 2 + i) = false := decide_eq_false (by omega)
    have hFlag : ∀ k, k < 2 ∨ 5 ≤ k → decide (2 + i = k) = false :=
      fun k hk => decide_eq_false (by omega)
    simp [hExpn, hRest, hFlag]
  · rw [getLsbD_pack (by omega)]
    have hFlowId : flowId.getLsbD (5 + i - 2) = false :=
      BitVec.getLsbD_of_ge _ _ (by omega)
    have hRest : decide (11 ≤ 5 + i) = false := decide_eq_false (by omega)
    have hFlag : ∀ k, k < 2 ∨ 10 ≤ k → decide (5 + i = k) = false :=
      fun k hk => decide_eq_false (by omega)
    simp [hFlowId, hRest, hFlag]
  · rw [getLsbD_pack (by omega)]
    have hFlowId : flowId.getLsbD (11 + i - 2) = false :=
      BitVec.getLsbD_of_ge _ _ (by omega)
    have hExpn : wakeInvlExpn.getLsbD (11 + i - 5) = false :=
      BitVec.getLsbD_of_ge _ _ (by omega)
    have hFlag : ∀ k, k < 11 → decide (11 + i = k) = false :=
      fun k hk => decide_eq_false (by omega)
    rw [BitVec.getLsbD_setWidth]
    simp [hFlowId, hExpn, hFlag, hi]

/-- The co-processor takes the lowest reserved bits. -/
theorem slaveReserved_eq (word : BitVec 32) :
    slaveReserved word = (getField 21 maxUsedBit word).setWidth 5 := by
  refine BitVec.eq_of_getLsbD_eq fun i hi => ?_
  have hMask : ∀ i < 5, reservedBitmask.getLsbD (11 + i) = true := by decide
  unfold slaveReserved
  rw [BitVec.getLsbD_setWidth, BitVec.getLsbD_setWidth, getLsbD_getField,
    BitVec.getLsbD_ushiftRight, BitVec.getLsbD_and,
    show reservedBitmask.getLsbD (maxUsedBit + i) = true from hMask i hi, Bool.and_true,
    decide_eq_true (show i < 21 by omega), Bool.true_and]

/-- The host keeps the reserved bits from the twelfth one on, in their places. -/
theorem getLsbD_hostReservedBits (b : Build) (word : BitVec 32) {i : Nat} (hi : i < 16) :
    (hostReservedBits b word).getLsbD i =
      (b.hostReserved && (decide (11 ≤ i) && (getField 21 maxUsedBit word).getLsbD i)) := by
  have hMask : ∀ i < 16, reservedBitmask.getLsbD i = decide (11 ≤ i) := by decide
  unfold hostReservedBits
  cases b.hostReserved with
  | false => simp
  | true =>
    rw [if_pos rfl, BitVec.getLsbD_setWidth, BitVec.getLsbD_and, BitVec.getLsbD_ushiftRight,
      getLsbD_getField, hMask i hi, decide_eq_true hi, decide_eq_true (show i < 21 by omega),
      Bool.true_and, Bool.true_and, Bool.true_and, Bool.and_comm]

/-- A field of the message is wide enough. -/
theorem setWidth_back {k : Nat} (w : Nat) (x : BitVec k) (h : k ≤ w) :
    (x.setWidth w).setWidth k = x :=
  (BitVec.setWidth_setWidth_of_le x h).trans (BitVec.setWidth_eq x)

/-! ## The request -/

/-- Reserved bits that are not put into the word are zero in it. -/
theorem compose_word (b : Build) (c : SetupConfig) :
    (composeItwtSetup b c).bitmask1 = pack (c.trigger ≠ 0#8) (c.flowType ≠ 0#8)
      (c.flowId.setWidth 3) (c.wakeInvlExpn.setWidth 5) (c.wakeDurationUnit ≠ 0#8)
      (if b.hostReserved then c.reserved else 0#8) := by
  simp only [composeItwtSetup, pack, orField_eq]
  cases b.hostReserved with
  | true => rfl
  | false => simp [setField]

/-- Whatever the host asks for, no field of it changes another one. -/
theorem itwtSetup_decode (b : Build) (c : SetupConfig) :
    reqWifiStaItwtSetup (composeItwtSetup b c) =
      { setupCmd := c.setupCmd.setWidth 32
        trigger := c.trigger ≠ 0#8
        flowType := c.flowType ≠ 0#8
        flowId := c.flowId.setWidth 3
        wakeInvlExpn := c.wakeInvlExpn.setWidth 5
        wakeDurationUnit := c.wakeDurationUnit ≠ 0#8
        reserved := if b.hostReserved then c.reserved.setWidth 5 else 0#5
        minWakeDura := c.minWakeDura
        wakeInvlMant := c.wakeInvlMant
        twtId := c.twtId.setWidth 16
        timeoutTimeMs := c.timeoutTimeMs.setWidth 16 } := by
  unfold reqWifiStaItwtSetup
  rw [slaveReserved_eq, compose_word]
  simp only [getBit_pack, getField_pack, DriverConfig.mk.injEq, true_and]
  refine ⟨rfl, ?_, ?_, ?_, ?_, rfl⟩
  · cases b.hostReserved with
    | true =>
      simp only [if_true]
      exact BitVec.setWidth_setWidth_of_le _ (by decide)
    | false => rfl
  · exact setWidth_back 32 _ (by decide)
  · exact setWidth_back 32 _ (by decide)
  · exact BitVec.setWidth_setWidth_of_le _ (by decide)

theorem flag_toNat_iff (x : BitVec 8) :
    (decide (x ≠ 0#8)).toNat = x.toNat ↔ x.toNat ≤ 1 := by
  by_cases hZero : x = 0#8
  · rw [hZero]
    decide
  · have hPos : x.toNat ≠ 0 := fun h => hZero (BitVec.eq_of_toNat_eq h)
    rw [decide_eq_true hZero]
    show 1 = x.toNat ↔ x.toNat ≤ 1
    omega

theorem setWidth_toNat_iff {k : Nat} (w : Nat) (x : BitVec k) :
    (x.setWidth w).toNat = x.toNat ↔ x.toNat < 2 ^ w := by
  rw [BitVec.toNat_setWidth]
  exact ⟨fun hEq => hEq ▸ Nat.mod_lt _ (Nat.two_pow_pos w), Nat.mod_eq_of_lt⟩

/-- Flags are 0 or 1 and the other fields fit into the fields of the driver; there are no reserved
bits in builds without them. -/
structure SetupConfig.Fits (b : Build) (c : SetupConfig) : Prop where
  trigger : c.trigger.toNat ≤ 1
  flowType : c.flowType.toNat ≤ 1
  flowId : c.flowId.toNat < 8
  wakeInvlExpn : c.wakeInvlExpn.toNat < 32
  wakeDurationUnit : c.wakeDurationUnit.toNat ≤ 1
  reserved : c.reserved.toNat < if b.hostReserved then 32 else 1
  timeoutTimeMs : c.timeoutTimeMs.toNat < 65536

theorem reserved_toNat_iff (b : Build) (x : BitVec 8) :
    (if b.hostReserved then x.setWidth 5 else 0#5).toNat = x.toNat ↔
      x.toNat < if b.hostReserved then 32 else 1 := by
  cases b.hostReserved with
  | true => exact setWidth_toNat_iff 5 x
  | false =>
    show 0 = x.toNat ↔ x.toNat < 1
    omega

theorem request_iff (b : Build) (c : SetupConfig) :
    c.Same (reqWifiStaItwtSetup (composeItwtSetup b c)) ↔ c.Fits b := by
  rw [itwtSetup_decode]
  constructor
  · rintro ⟨-, hTrigger, hFlowType, hFlowId, hExpn, hUnit, hReserved, -, -, -, hTimeout⟩
    exact ⟨(flag_toNat_iff _).mp hTrigger, (flag_toNat_iff _).mp hFlowType,
      (setWidth_toNat_iff 3 _).mp hFlowId, (setWidth_toNat_iff 5 _).mp hExpn,
      (flag_toNat_iff _).mp hUnit, (reserved_toNat_iff b _).mp hReserved,
      (setWidth_toNat_iff 16 _).mp hTimeout⟩
  · rintro ⟨hTrigger, hFlowType, hFlowId, hExpn, hUnit, hReserved, hTimeout⟩
    have hCmd : c.setupCmd.toNat < 2 ^ 32 := Nat.lt_trans c.setupCmd.isLt (by decide)
    have hId : c.twtId.toNat < 2 ^ 16 := Nat.lt_trans c.twtId.isLt (by decide)
    exact ⟨(setWidth_toNat_iff 32 _).mpr hCmd, (flag_toNat_iff _).mpr hTrigger,
      (flag_toNat_iff _).mpr hFlowType, (setWidth_toNat_iff 3 _).mpr hFlowId,
      (setWidth_toNat_iff 5 _).mpr hExpn, (flag_toNat_iff _).mpr hUnit,
      (reserved_toNat_iff b _).mpr hReserved, rfl, rfl, (setWidth_toNat_iff 16 _).mpr hId,
      (setWidth_toNat_iff 16 _).mpr hTimeout⟩

/-! ## The event -/

theorem event_word (e : DriverEvent) :
    (rpcEvtItwtSetup e).config.bitmask1 = pack e.config.trigger e.config.flowType e.config.flowId
      e.config.wakeInvlExpn e.config.wakeDurationUnit e.config.reserved := by
  simp only [rpcEvtItwtSetup, pack, orField_eq, BitVec.setWidth_eq]

/-- The host never sees the five reserved bits of the driver. -/
theorem hostReservedBits_event (b : Build) (e : DriverEvent) :
    hostReservedBits b (rpcEvtItwtSetup e).config.bitmask1 = 0#16 := by
  refine BitVec.eq_of_getLsbD_eq fun i hi => ?_
  rw [getLsbD_hostReservedBits b _ hi, event_word, getField_pack.2.2, BitVec.getLsbD_setWidth,
    BitVec.getLsbD_zero]
  by_cases hLow : 11 ≤ i
  · rw [BitVec.getLsbD_of_ge _ _ (show 5 ≤ i by omega)]
    simp
  · simp [hLow]

theorem flag_toNat (on : Bool) : (flag on).toNat = on.toNat := by
  cases on <;> rfl

theorem setWidth_toNat {k w : Nat} (x : BitVec k) (h : k ≤ w) : (x.setWidth w).toNat = x.toNat :=
  (setWidth_toNat_iff w x).mpr (Nat.lt_of_lt_of_le x.isLt (Nat.pow_le_pow_right (by decide) h))

/-- Except for the reserved bits the two decoders agree. -/
theorem sameBits_iff (b : Build) (m : Msg) :
    (reqWifiStaItwtSetup m).SameBits (parseConfig b m) ↔
      (hostReservedBits b m.bitmask1).toNat = (slaveReserved m.bitmask1).toNat :=
  ⟨fun h => h.reserved, fun h => ⟨flag_toNat _, flag_toNat _, setWidth_toNat _ (by decide),
    setWidth_toNat _ (by decide), flag_toNat _, h⟩⟩

/-- The setup command of the driver fits into the event of the host, and no reserved bit is set. -/
structure DriverEvent.Fits (e : DriverEvent) : Prop where
  setupCmd : e.config.setupCmd.toNat < 65536
  reserved : e.config.reserved = 0#5

theorem event_iff (b : Build) (e : DriverEvent) :
    e.Same (rpcParseEvt b (rpcEvtItwtSetup e)) ↔ e.Fits := by
  have hBits := event_word e
  constructor
  · rintro ⟨hCmd, hSame, -⟩
    refine ⟨(setWidth_toNat_iff 16 _).mp hCmd, ?_⟩
    have hZero := hSame.reserved
    rw [show (rpcParseEvt b (rpcEvtItwtSetup e)).config.reserved = 0#16 from
      hostReservedBits_event b e] at hZero
    exact BitVec.eq_of_toNat_eq hZero.symm
  · rintro ⟨hCmd, hZero⟩
    refine ⟨(setWidth_toNat_iff 16 _).mpr hCmd, ⟨?_, ?_, ?_, ?_, ?_, ?_⟩,
      setWidth_back 32 e.config.minWakeDura (by decide),
      setWidth_back 32 e.config.wakeInvlMant (by decide),
      setWidth_back 32 e.config.twtId (by decide),
      setWidth_back 32 e.config.timeoutTimeMs (by decide), rfl,
      setWidth_back 32 e.reason (by decide), rfl⟩
    · show (flag (getBit triggerBit _)).toNat = _
      rw [hBits, getBit_pack.1, flag_toNat]
    · show (flag (getBit flowTypeBit _)).toNat = _
      rw [hBits, getBit_pack.2.1, flag_toNat]
    · show ((getField 3 flowIdBit _).setWidth 8).toNat = _
      rw [hBits, getField_pack.1, setWidth_toNat _ (by decide)]
    · show ((getField 5 wakeInvlExpnBit _).setWidth 8).toNat = _
      rw [hBits, getField_pack.2.1, setWidth_toNat _ (by decide)]
    · show (flag (getBit wakeDurationUnitBit _)).toNat = _
      rw [hBits, getBit_pack.2.2, flag_toNat]
    · rw [hZero]
      show (hostReservedBits b _).toNat = _
      rw [hostReservedBits_event]
      rfl

/-! ## The two decoders -/

/-- The five reserved bits of the driver are zero, and so are those in whose place the host has
bits of its type. -/
def Unreserved (b : Build) (word : BitVec 32) : Prop :=
  (∀ i, 11 ≤ i → i < 16 → word.getLsbD i = false) ∧
    (b.hostReserved = true → ∀ i, 22 ≤ i → i < 27 → word.getLsbD i = false)

theorem slaveReserved_zero_iff (word : BitVec 32) :
    slaveReserved word = 0#5 ↔ ∀ i, 11 ≤ i → i < 16 → word.getLsbD i = false := by
  have hBit : ∀ i < 5, (slaveReserved word).getLsbD i = word.getLsbD (11 + i) := by
    intro i hi
    rw [slaveReserved_eq, BitVec.getLsbD_setWidth, getLsbD_getField, decide_eq_true hi,
      decide_eq_true (show i < 21 by omega), Bool.true_and, Bool.true_and]
    rfl
  refine ⟨fun hZero i hLow hHigh => ?_, fun hAll => BitVec.eq_of_getLsbD_eq fun i hi => ?_⟩
  · have hSame := hBit (i - 11) (by omega)
    rw [hZero, BitVec.getLsbD_zero, show 11 + (i - 11) = i by omega] at hSame
    exact hSame.symm
  · rw [hBit i hi, BitVec.getLsbD_zero]
    exact hAll (11 + i) (by omega) (by omega)

theorem hostReservedBits_zero_iff (b : Build) (word : BitVec 32) :
    hostReservedBits b word = 0#16 ↔
      (b.hostReserved = true → ∀ i, 22 ≤ i → i < 27 → word.getLsbD i = false) := by
  have hBit : ∀ i < 16, (hostReservedBits b word).getLsbD i =
      (b.hostReserved && (decide (11 ≤ i) && word.getLsbD (11 + i))) := by
    intro i hi
    rw [getLsbD_hostReservedBits b word hi, getLsbD_getField,
      decide_eq_true (show i < 21 by omega), Bool.true_and]
    rfl
  refine ⟨fun hZero hHost i hLow hHigh => ?_, fun hAll => BitVec.eq_of_getLsbD_eq fun i hi => ?_⟩
  · have hSame := hBit (i - 11) (by omega)
    rw [hZero, BitVec.getLsbD_zero, show 11 + (i - 11) = i by omega, hHost,
      decide_eq_true (show 11 ≤ i - 11 by omega), Bool.true_and, Bool.true_and] at hSame
    exact hSame.symm
  · rw [hBit i hi, BitVec.getLsbD_zero]
    cases hHost : b.hostReserved with
    | false => rfl
    | true =>
      by_cases hLow : 11 ≤ i
      · rw [hAll hHost (11 + i) (by omega) (by omega), Bool.and_false, Bool.and_false]
      · rw [decide_eq_false hLow, Bool.false_and, Bool.and_false]

/-- The host's bits begin where those of the driver are over, so the numbers are equal only if both
are zero. -/
theorem reserved_eq_iff (b : Build) (word : BitVec 32) :
    (hostReservedBits b word).toNat = (slaveReserved word).toNat ↔ Unreserved b word := by
  rw [Unreserved, ← slaveReserved_zero_iff, ← hostReservedBits_zero_iff]
  refine ⟨fun hEq => ?_, fun hZero => by rw [hZero.1, hZero.2]; rfl⟩
  have hLess := (slaveReserved word).isLt
  have hHost : hostReservedBits b word = 0#16 := by
    refine BitVec.eq_of_getLsbD_eq fun i hi => ?_
    rw [BitVec.getLsbD_zero]
    by_cases hLow : 11 ≤ i
    · rw [BitVec.getLsbD, hEq]
      refine Nat.testBit_lt_two_pow (Nat.lt_of_lt_of_le hLess ?_)
      exact Nat.pow_le_pow_right (by decide) (by omega)
    · rw [getLsbD_hostReservedBits b word hi, decide_eq_false hLow, Bool.false_and, Bool.and_false]
  refine ⟨BitVec.eq_of_toNat_eq ?_, hHost⟩
  rw [← hEq, hHost]
  rfl

/-- For every request, every event and every message. -/
theorem itwt_iff (b : Build) :
    (∀ c : SetupConfig, c.Same (reqWifiStaItwtSetup (composeItwtSetup b c)) ↔ c.Fits b) ∧
    (∀ e : DriverEvent, e.Same (rpcParseEvt b (rpcEvtItwtSetup e)) ↔ e.Fits) ∧
    (∀ m : Msg, (reqWifiStaItwtSetup m).SameBits (parseConfig b m) ↔ Unreserved b m.bitmask1) :=
  ⟨request_iff b, event_iff b, fun m => (sameBits_iff b m).trans (reserved_eq_iff b m.bitmask1)⟩

def reservedEvent : DriverEvent :=
  { config := { setupCmd := 4, trigger := true, flowType := true, flowId := 1, wakeInvlExpn := 10
                wakeDurationUnit := false, reserved := 3, minWakeDura := 255, wakeInvlMant := 512
                twtId := 0, timeoutTimeMs := 5000 }
    status := 1, reason := 0, targetWakeTime := 0 }

/-- The reserved bits 3 of the driver are zero for the host. -/
theorem reserved_lost : (rpcParseEvt ⟨true⟩ (rpcEvtItwtSetup reservedEvent)).config.reserved = 0 ∧
    ¬ reservedEvent.Same (rpcParseEvt ⟨true⟩ (rpcEvtItwtSetup reservedEvent)) := by
  refine ⟨by decide +kernel, fun hSame => ?_⟩
  exact absurd hSame.bits.reserved (by decide +kernel)

end EspHosted.Wifi.ItwtCodec
