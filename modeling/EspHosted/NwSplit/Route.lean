import EspHosted.Lib.Reads

/-!
# Routing of received frames

`nw_split_filter_and_route_packet` decides whether a frame goes to the network stack of the
co-processor, to that of the host, to both, or to none. It finds the headers by the offsets that
the frame itself gives, and does not look at `frame_length`.

While the host sleeps, a segment from the MQTT port is to wake it up if its payload starts with a
certain text. The header length of the segment is taken from `TCPH_FLAGS`, which has the flags only,
and is 0, so the text is looked for in the TCP header, behind a source port that it cannot have.

* `routed_iff`: exactly when only bytes of the frame are read and such a segment is routed by its
  payload.
-/

namespace EspHosted.NwSplit.Route

open Reads

/-! ## Model -/

/-- `hosted_l2_bridge`. -/
inductive Bridge
  | invalid
  | slave
  | host
  | both
  deriving DecidableEq

/-- The configuration and what the function asks: the default, the ports that are reserved for the
host, the port ranges, the listening sockets, and whether the host sleeps. -/
structure Env where
  defaultLwipToSend : Bridge
  tcpSrcAllowed : List Nat
  tcpDstAllowed : List Nat
  udpSrcAllowed : List Nat
  udpDstAllowed : List Nat
  isRemoteTcpPort : Nat → Bool
  isLocalTcpPort : Nat → Bool
  isRemoteUdpPort : Nat → Bool
  isLocalUdpPort : Nat → Bool
  isLocalTcpPortOpen : Nat → Bool
  isLocalUdpPortOpen : Nat → Bool
  hostPowerSaving : Bool

def mqttPort : Nat := 1883
def defaultIperfPort : Nat := 5001
def dhcpClientPort : Nat := 68

/-- `"wakeup-host"`. -/
def wakeupHostString : List UInt8 := [119, 97, 107, 101, 117, 112, 45, 104, 111, 115, 116]

def sizeofEthHdr : Nat := 14
def ethtypeIp : Nat := 0x0800
def ethtypeArp : Nat := 0x0806
def ipProtoIcmp : Nat := 1
def ipProtoTcp : Nat := 6
def ipProtoUdp : Nat := 17
def icmpEr : Nat := 0
def icmpEcho : Nat := 8
def arpRequest : Nat := 1

/-- `lwip_ntohs` of a field. -/
def be16 (buf : Memory) (i : Nat) : Nat := (buf i).toNat * 256 + (buf (i + 1)).toNat

/-- `IPH_HL`, of the header behind that of the frame. -/
def iphHl (buf : Memory) : Nat := (buf sizeofEthHdr).toNat % 16

def iphProto (buf : Memory) : Nat := (buf (sizeofEthHdr + 9)).toNat

/-- Where the header behind the IP header starts. -/
def transportHdr (buf : Memory) : Nat := sizeofEthHdr + iphHl buf * 4

/-- `TCPH_FLAGS`. -/
def tcphFlags (buf : Memory) (tcphdr : Nat) : Nat := be16 buf (tcphdr + 12) &&& 0x3F

/-- `TCP_HDR_LEN`. -/
def tcpHdrLen (buf : Memory) (tcphdr : Nat) : Nat := (tcphFlags buf tcphdr >>> 12) * 4

/-- The result of the function, and what it has read of the frame. -/
structure Routed where
  bridge : Bridge
  reads : List Range

/-- `host_mqtt_wakeup_triggered`. -/
def hostMqttWakeupTriggered (buf : Memory) (payload payloadLength : Nat) : Bool × List Range :=
  if wakeupHostString.length ≤ payloadLength then
    ((List.range wakeupHostString.length).map (fun i => buf (payload + i)) = wakeupHostString,
      [⟨payload, wakeupHostString.length⟩])
  else (false, [])

/-- The part for TCP. -/
def routeTcp (env : Env) (buf : Memory) (tcphdr : Nat) : Routed :=
  let dstPort := be16 buf (tcphdr + 2)
  let srcPort := be16 buf tcphdr
  let reads : List Range := [⟨tcphdr + 2, 2⟩, ⟨tcphdr, 2⟩]
  if srcPort ∈ env.tcpSrcAllowed ∨ dstPort ∈ env.tcpDstAllowed then ⟨.host, reads⟩
  else if dstPort = defaultIperfPort ∧ env.isLocalTcpPortOpen dstPort = true then ⟨.slave, reads⟩
  else if dstPort = defaultIperfPort ∧ env.hostPowerSaving = false then ⟨.host, reads⟩
  else if env.isRemoteTcpPort dstPort = true then
    if env.hostPowerSaving = true then
      if srcPort = mqttPort then
        let mqttPayloadLength := be16 buf (tcphdr + 14)
        let mqttPayload := tcphdr + tcpHdrLen buf tcphdr
        let (triggered, compared) := hostMqttWakeupTriggered buf mqttPayload mqttPayloadLength
        ⟨if triggered then .host else .invalid,
          reads ++ [⟨tcphdr + 12, 2⟩, ⟨tcphdr + 14, 2⟩] ++ compared⟩
      else ⟨.invalid, reads⟩
    else ⟨.host, reads⟩
  else if env.isLocalTcpPort dstPort = true then ⟨.slave, reads⟩
  else ⟨env.defaultLwipToSend, reads⟩

/-- The part for UDP. -/
def routeUdp (env : Env) (buf : Memory) (udphdr : Nat) : Routed :=
  let dstPort := be16 buf (udphdr + 2)
  let srcPort := be16 buf udphdr
  let bridge : Bridge :=
    if srcPort ∈ env.udpSrcAllowed ∨ dstPort ∈ env.udpDstAllowed then .host
    else if dstPort = defaultIperfPort ∧ env.isLocalUdpPortOpen dstPort = true then .slave
    else if dstPort = defaultIperfPort ∧ env.hostPowerSaving = false then .host
    else if dstPort = dhcpClientPort then .both
    else if env.isRemoteUdpPort dstPort = true then
      if env.hostPowerSaving = true then .invalid else .host
    else if env.isLocalUdpPort dstPort = true then .slave
    else env.defaultLwipToSend
  ⟨bridge, [⟨udphdr + 2, 2⟩, ⟨udphdr, 2⟩]⟩

/-- The part for ICMP. -/
def routeIcmp (env : Env) (buf : Memory) (icmphdr : Nat) : Routed :=
  let type := (buf icmphdr).toNat
  let bridge : Bridge :=
    if type = icmpEcho then .slave
    else if type = icmpEr then if env.hostPowerSaving = true then .slave else .both
    else env.defaultLwipToSend
  ⟨bridge, [⟨icmphdr, 1⟩]⟩

/-- The part for ARP. -/
def routeArp (env : Env) (buf : Memory) : Routed :=
  let opcode := be16 buf (sizeofEthHdr + 6)
  let bridge : Bridge :=
    if opcode = arpRequest then .slave else if env.hostPowerSaving = true then .slave else .both
  ⟨bridge, [⟨sizeofEthHdr + 6, 2⟩]⟩

def Routed.behind (reads : List Range) (r : Routed) : Routed := ⟨r.bridge, reads ++ r.reads⟩

/-- The part for IP. -/
def routeIp (env : Env) (buf : Memory) : Routed :=
  let proto := iphProto buf
  let protoRead : Range := ⟨sizeofEthHdr + 9, 1⟩
  let hlRead : Range := ⟨sizeofEthHdr, 1⟩
  if proto = ipProtoTcp then (routeTcp env buf (transportHdr buf)).behind [protoRead, hlRead]
  else if proto = ipProtoUdp then (routeUdp env buf (transportHdr buf)).behind [protoRead, hlRead]
  else if proto = ipProtoIcmp then (routeIcmp env buf (transportHdr buf)).behind [protoRead, hlRead]
  else ⟨env.defaultLwipToSend, [protoRead]⟩

/-- `nw_split_filter_and_route_packet`; `frame_length` is used for logging only. -/
def nwSplitFilterAndRoutePacket (env : Env) (buf : Memory) : Routed :=
  if (buf 0).toNat % 2 = 1 then ⟨.slave, [⟨0, 1⟩]⟩
  else
    let ethType := be16 buf 12
    let reads : List Range := [⟨0, 1⟩, ⟨12, 2⟩]
    if ethType = ethtypeIp then (routeIp env buf).behind reads
    else if ethType = ethtypeArp then (routeArp env buf).behind reads
    else ⟨env.defaultLwipToSend, reads⟩

/-! ## What is asked -/

def Unicast (buf : Memory) : Prop := (buf 0).toNat % 2 = 0

def IsIp (buf : Memory) : Prop := be16 buf 12 = ethtypeIp
def IsArp (buf : Memory) : Prop := be16 buf 12 = ethtypeArp
def IsTcp (buf : Memory) : Prop := iphProto buf = ipProtoTcp
def IsUdp (buf : Memory) : Prop := iphProto buf = ipProtoUdp
def IsIcmp (buf : Memory) : Prop := iphProto buf = ipProtoIcmp

/-- A segment from the MQTT port to the host, which sleeps, that no other rule matches. -/
structure MqttUnmatched (env : Env) (buf : Memory) (tcphdr : Nat) : Prop where
  notAllowed : ¬ (be16 buf tcphdr ∈ env.tcpSrcAllowed ∨ be16 buf (tcphdr + 2) ∈ env.tcpDstAllowed)
  notIperf : ¬ (be16 buf (tcphdr + 2) = defaultIperfPort ∧
    env.isLocalTcpPortOpen (be16 buf (tcphdr + 2)) = true)
  remote : env.isRemoteTcpPort (be16 buf (tcphdr + 2)) = true
  sleeping : env.hostPowerSaving = true
  fromMqtt : be16 buf tcphdr = mqttPort

/-- A frame with such a segment. -/
structure MqttFrame (env : Env) (buf : Memory) : Prop where
  unicast : Unicast buf
  ip : IsIp buf
  tcp : IsTcp buf
  unmatched : MqttUnmatched env buf (transportHdr buf)

/-- The payload behind the TCP header, of the length that the IP header gives, starts with the
text. The bytes are those of the frame. -/
def WakesUp (frame : List UInt8) (behind : Memory) : Prop :=
  let buf := load frame behind
  let tcphdr := transportHdr buf
  let headerLen := (buf (tcphdr + 12)).toNat / 16 * 4
  let payloadLen := be16 buf (sizeofEthHdr + 2) - iphHl buf * 4 - headerLen
  wakeupHostString.length ≤ payloadLen ∧
    (frame.drop (tcphdr + headerLen)).take wakeupHostString.length = wakeupHostString

/-- The frame has the fields that its own bytes ask for. -/
structure LongEnough (env : Env) (buf : Memory) (n : Nat) : Prop where
  dest : 1 ≤ n
  type : Unicast buf → 14 ≤ n
  proto : Unicast buf → IsIp buf → 24 ≤ n
  tcpPorts : Unicast buf → IsIp buf → IsTcp buf → transportHdr buf + 4 ≤ n
  tcpWindow : MqttFrame env buf → transportHdr buf + 16 ≤ n
  udpPorts : Unicast buf → IsIp buf → IsUdp buf → transportHdr buf + 4 ≤ n
  icmpType : Unicast buf → IsIp buf → IsIcmp buf → transportHdr buf + 1 ≤ n
  opcode : Unicast buf → IsArp buf → 22 ≤ n

/-- Only bytes of the frame are read, and an MQTT segment is routed by its payload. -/
structure RoutedWell (env : Env) (frame : List UInt8) (behind : Memory) : Prop where
  inside : ∀ r ∈ (nwSplitFilterAndRoutePacket env (load frame behind)).reads,
    r.Inside frame.length
  wakeup : MqttFrame env (load frame behind) →
    ((nwSplitFilterAndRoutePacket env (load frame behind)).bridge = .host ↔ WakesUp frame behind)

variable {env : Env} {buf : Memory} {tcphdr n : Nat}

/-! ## The segment from the MQTT port -/

theorem tcpHdrLen_eq (buf : Memory) (tcphdr : Nat) : tcpHdrLen buf tcphdr = 0 := by
  have hFlags : tcphFlags buf tcphdr ≤ 0x3F := Nat.and_le_right
  rw [tcpHdrLen, Nat.shiftRight_eq_div_pow, Nat.div_eq_of_lt (by omega)]

/-- The text does not start with the bytes of the MQTT port. -/
theorem not_triggered (hPort : be16 buf tcphdr = mqttPort) (len : Nat) :
    (hostMqttWakeupTriggered buf (tcphdr + tcpHdrLen buf tcphdr) len).1 = false := by
  rw [tcpHdrLen_eq, hostMqttWakeupTriggered]
  split
  · rw [decide_eq_false_iff_not]
    intro hText
    have hFirst : buf tcphdr = 119 := (List.cons.inj hText).1
    rw [be16, hFirst, mqttPort] at hPort
    have hByte : (119 : UInt8).toNat = 119 := rfl
    omega
  · rfl

theorem routeTcp_mqtt (h : MqttUnmatched env buf tcphdr) :
    (routeTcp env buf tcphdr).bridge = .invalid ∧
      ((∀ r ∈ (routeTcp env buf tcphdr).reads, r.Inside n) ↔ tcphdr + 16 ≤ n) := by
  have hEq : routeTcp env buf tcphdr = ⟨.invalid,
      [⟨tcphdr + 2, 2⟩, ⟨tcphdr, 2⟩] ++ [⟨tcphdr + 12, 2⟩, ⟨tcphdr + 14, 2⟩] ++
        (hostMqttWakeupTriggered buf (tcphdr + tcpHdrLen buf tcphdr)
          (be16 buf (tcphdr + 14))).2⟩ := by
    have hIperf : ¬ (be16 buf (tcphdr + 2) = defaultIperfPort ∧ env.hostPowerSaving = false) := by
      rw [h.sleeping]
      exact fun hBoth => Bool.noConfusion hBoth.2
    simp only [routeTcp, if_neg h.notAllowed, if_neg h.notIperf, if_neg hIperf, if_pos h.remote,
      if_pos h.sleeping, if_pos h.fromMqtt, not_triggered h.fromMqtt, Bool.false_eq_true, if_false]
  rw [hEq]
  refine ⟨rfl, ?_⟩
  rw [hostMqttWakeupTriggered, tcpHdrLen_eq]
  split
  · simp [Range.Inside, wakeupHostString]
    omega
  · simp [Range.Inside]
    omega

theorem routeTcp_other (h : ¬ MqttUnmatched env buf tcphdr) :
    (∀ r ∈ (routeTcp env buf tcphdr).reads, r.Inside n) ↔ tcphdr + 4 ≤ n := by
  have hReads : (routeTcp env buf tcphdr).reads = [⟨tcphdr + 2, 2⟩, ⟨tcphdr, 2⟩] := by
    unfold routeTcp
    simp only
    split
    · rfl
    rename_i hAllowed
    split
    · rfl
    rename_i hIperf
    split
    · rfl
    split
    · rename_i hRemote
      split
      · rename_i hSleeping
        split
        · rename_i hMqtt
          exact absurd ⟨hAllowed, hIperf, hRemote, hSleeping, hMqtt⟩ h
        · rfl
      · rfl
    · split <;> rfl
  rw [hReads]
  simp [Range.Inside]
  omega

/-! ## Any frame -/

theorem longEnough_iff : LongEnough env buf n ↔ 1 ≤ n ∧ (Unicast buf → 14 ≤ n) ∧
    (Unicast buf → IsIp buf → 24 ≤ n) ∧
    (Unicast buf → IsIp buf → IsTcp buf → transportHdr buf + 4 ≤ n) ∧
    (MqttFrame env buf → transportHdr buf + 16 ≤ n) ∧
    (Unicast buf → IsIp buf → IsUdp buf → transportHdr buf + 4 ≤ n) ∧
    (Unicast buf → IsIp buf → IsIcmp buf → transportHdr buf + 1 ≤ n) ∧
    (Unicast buf → IsArp buf → 22 ≤ n) :=
  ⟨fun h => ⟨h.dest, h.type, h.proto, h.tcpPorts, h.tcpWindow, h.udpPorts, h.icmpType, h.opcode⟩,
    fun ⟨h1, h2, h3, h4, h5, h6, h7, h8⟩ => ⟨h1, h2, h3, h4, h5, h6, h7, h8⟩⟩

theorem mqttFrame_iff : MqttFrame env buf ↔
    Unicast buf ∧ IsIp buf ∧ IsTcp buf ∧ MqttUnmatched env buf (transportHdr buf) :=
  ⟨fun h => ⟨h.unicast, h.ip, h.tcp, h.unmatched⟩, fun ⟨h1, h2, h3, h4⟩ => ⟨h1, h2, h3, h4⟩⟩

theorem behind_inside {reads : List Range} {r : Routed} :
    (∀ x ∈ (r.behind reads).reads, x.Inside n) ↔
      (∀ x ∈ reads, x.Inside n) ∧ ∀ x ∈ r.reads, x.Inside n := by
  rw [Routed.behind, List.forall_mem_append]

/-- The part for IP reads the protocol and, for three protocols, the header length and the
header behind. -/
theorem routeIp_inside (env : Env) (buf : Memory) (n : Nat) :
    (∀ r ∈ (routeIp env buf).reads, r.Inside n) ↔ 24 ≤ n ∧
      (IsTcp buf → transportHdr buf + 4 ≤ n) ∧
      (IsTcp buf → MqttUnmatched env buf (transportHdr buf) → transportHdr buf + 16 ≤ n) ∧
      (IsUdp buf → transportHdr buf + 4 ≤ n) ∧ (IsIcmp buf → transportHdr buf + 1 ≤ n) := by
  have hHdr : sizeofEthHdr ≤ transportHdr buf := Nat.le_add_right _ _
  rw [sizeofEthHdr] at hHdr
  unfold routeIp
  simp only
  split
  · rename_i hTcp
    have hUdp : ¬ IsUdp buf := by rw [IsUdp, hTcp]; decide
    have hIcmp : ¬ IsIcmp buf := by rw [IsIcmp, hTcp]; decide
    have hTcp : IsTcp buf := hTcp
    rw [behind_inside]
    by_cases hMqtt : MqttUnmatched env buf (transportHdr buf)
    · rw [(routeTcp_mqtt hMqtt).2]
      simp [Range.Inside, hTcp, hUdp, hIcmp, hMqtt, sizeofEthHdr]
      omega
    · rw [routeTcp_other hMqtt]
      simp [Range.Inside, hTcp, hUdp, hIcmp, hMqtt, sizeofEthHdr]
      omega
  rename_i hTcp
  have hTcp : ¬ IsTcp buf := hTcp
  split
  · rename_i hUdp
    have hIcmp : ¬ IsIcmp buf := by rw [IsIcmp, hUdp]; decide
    have hUdp : IsUdp buf := hUdp
    rw [behind_inside]
    simp [Range.Inside, hTcp, hUdp, hIcmp, sizeofEthHdr, routeUdp]
    omega
  rename_i hUdp
  have hUdp : ¬ IsUdp buf := hUdp
  split
  · rename_i hIcmp
    have hIcmp : IsIcmp buf := hIcmp
    rw [behind_inside]
    simp [Range.Inside, hTcp, hUdp, hIcmp, sizeofEthHdr, routeIcmp]
    omega
  · rename_i hIcmp
    have hIcmp : ¬ IsIcmp buf := hIcmp
    simp [Range.Inside, hTcp, hUdp, hIcmp, sizeofEthHdr]

theorem route_inside_iff (env : Env) (buf : Memory) (n : Nat) :
    (∀ r ∈ (nwSplitFilterAndRoutePacket env buf).reads, r.Inside n) ↔ LongEnough env buf n := by
  rw [longEnough_iff, mqttFrame_iff]
  unfold nwSplitFilterAndRoutePacket
  split
  · rename_i hBroadcast
    have hUnicast : ¬ Unicast buf := by rw [Unicast, hBroadcast]; decide
    simp [Range.Inside, hUnicast]
  rename_i hBroadcast
  have hUnicast : Unicast buf := by rw [Unicast]; omega
  simp only
  split
  · rename_i hIp
    have hArp : ¬ IsArp buf := by rw [IsArp, hIp]; decide
    have hIp : IsIp buf := hIp
    rw [behind_inside, routeIp_inside]
    have hReads : (∀ r ∈ ([⟨0, 1⟩, ⟨12, 2⟩] : List Range), r.Inside n) ↔ 1 ≤ n ∧ 14 ≤ n := by
      simp [Range.Inside]
    rw [hReads]
    constructor
    · rintro ⟨⟨hDest, hType⟩, hProto, hPorts, hWindow, hUdp, hIcmp⟩
      exact ⟨hDest, fun _ => hType, fun _ _ => hProto, fun _ _ => hPorts,
        fun hMqtt => hWindow hMqtt.2.2.1 hMqtt.2.2.2, fun _ _ => hUdp, fun _ _ => hIcmp,
        fun _ h => absurd h hArp⟩
    · rintro ⟨hDest, hType, hProto, hPorts, hWindow, hUdp, hIcmp, -⟩
      exact ⟨⟨hDest, hType hUnicast⟩, hProto hUnicast hIp, hPorts hUnicast hIp,
        fun hTcp hMqtt => hWindow ⟨hUnicast, hIp, hTcp, hMqtt⟩, hUdp hUnicast hIp,
        hIcmp hUnicast hIp⟩
  rename_i hIp
  have hIp : ¬ IsIp buf := hIp
  split
  · rename_i hArp
    have hArp : IsArp buf := hArp
    rw [behind_inside]
    simp [Range.Inside, hUnicast, hIp, hArp, routeArp, sizeofEthHdr]
    omega
  · rename_i hArp
    have hArp : ¬ IsArp buf := hArp
    simp [Range.Inside, hUnicast, hIp, hArp]

/-- A segment from the MQTT port never wakes the host. -/
theorem route_mqtt (h : MqttFrame env buf) :
    (nwSplitFilterAndRoutePacket env buf).bridge = .invalid := by
  have hUnicast : ¬ (buf 0).toNat % 2 = 1 := by
    have hEven := h.unicast
    rw [Unicast] at hEven
    omega
  have hIp : be16 buf 12 = ethtypeIp := h.ip
  have hTcp : iphProto buf = ipProtoTcp := h.tcp
  simp only [nwSplitFilterAndRoutePacket, if_neg hUnicast, if_pos hIp, routeIp, if_pos hTcp,
    Routed.behind]
  exact (routeTcp_mqtt (n := 0) h.unmatched).1

/-- For every frame, whatever lies behind it in memory. -/
theorem routed_iff (env : Env) (frame : List UInt8) (behind : Memory) :
    RoutedWell env frame behind ↔ LongEnough env (load frame behind) frame.length ∧
      ¬ (MqttFrame env (load frame behind) ∧ WakesUp frame behind) := by
  constructor
  · intro h
    refine ⟨(route_inside_iff ..).mp h.inside, fun ⟨hMqtt, hWakes⟩ => ?_⟩
    have hHost := (h.wakeup hMqtt).mpr hWakes
    rw [route_mqtt hMqtt] at hHost
    exact Bridge.noConfusion hHost
  · rintro ⟨hLong, hNot⟩
    refine ⟨(route_inside_iff ..).mpr hLong, fun hMqtt => ?_⟩
    rw [route_mqtt hMqtt]
    exact ⟨fun hHost => Bridge.noConfusion hHost, fun hWakes => absurd ⟨hMqtt, hWakes⟩ hNot⟩

/-- The host sleeps and has all TCP ports from 49152 on. -/
def sleepingEnv : Env :=
  { defaultLwipToSend := .slave, tcpSrcAllowed := [], tcpDstAllowed := [], udpSrcAllowed := [],
    udpDstAllowed := [], isRemoteTcpPort := fun port => 49152 ≤ port,
    isLocalTcpPort := fun port => port < 49152, isRemoteUdpPort := fun port => 49152 ≤ port,
    isLocalUdpPort := fun port => port < 49152, isLocalTcpPortOpen := fun _ => false,
    isLocalUdpPortOpen := fun _ => false, hostPowerSaving := true }

/-- A segment from the MQTT port to port 50000 with the text as its payload: the headers of
Ethernet, IP (20 bytes, 51 in all) and TCP (20 bytes, window 512). -/
def wakeupFrame : List UInt8 :=
  [2, 0, 0, 0, 0, 1, 2, 0, 0, 0, 0, 2, 8, 0] ++
  [69, 0, 0, 51, 0, 0, 0, 0, 64, 6, 0, 0, 192, 168, 4, 1, 192, 168, 4, 2] ++
  [7, 91, 195, 80, 0, 0, 0, 0, 0, 0, 0, 0, 80, 24, 2, 0, 0, 0, 0, 0] ++ wakeupHostString

/-- The whole frame is there, its payload is the text, and it is dropped. -/
theorem wakeup_dropped :
    (nwSplitFilterAndRoutePacket sleepingEnv (load wakeupFrame fun _ => 0)).bridge = .invalid ∧
    MqttFrame sleepingEnv (load wakeupFrame fun _ => 0) ∧ WakesUp wakeupFrame (fun _ => 0) ∧
    ¬ RoutedWell sleepingEnv wakeupFrame fun _ => 0 := by
  have hDropped : (nwSplitFilterAndRoutePacket sleepingEnv
      (load wakeupFrame fun _ => 0)).bridge = .invalid := by
    decide +kernel
  have hMqtt : MqttFrame sleepingEnv (load wakeupFrame fun _ => 0) :=
    ⟨by unfold Unicast; decide +kernel, by unfold IsIp; decide +kernel,
      by unfold IsTcp; decide +kernel,
      ⟨by decide +kernel, by decide +kernel, by decide +kernel, rfl, by decide +kernel⟩⟩
  have hWakes : WakesUp wakeupFrame (fun _ => 0) := by
    unfold WakesUp
    decide +kernel
  refine ⟨hDropped, hMqtt, hWakes, fun h => ?_⟩
  rw [(h.wakeup hMqtt).mpr hWakes] at hDropped
  exact Bridge.noConfusion hDropped

end EspHosted.NwSplit.Route
