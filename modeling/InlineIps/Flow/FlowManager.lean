import InlineIps.Library.BucketSweep
import InlineIps.Library.Machine
import InlineIps.Capture.PacketParser
import InlineIps.Flow.Flow

/-!
# The flow manager

`FlowManager` assembles flows, updates the statistics of source addresses and removes what
has expired. Its constant members are `FlowParams`; the three maps and the two sweep
cursors are its state. The maps are reserved to their caps, so each has a fixed bucket
layout.

A run of a flow manager is a list of calls (`FlowCall`) given to the machine `call`.
-/

namespace InlineIps

open Library

/-! ## Accumulating one packet -/

namespace DirectionStats

variable {F : Type} [DoubleOps F]

/-- One packet of this direction. -/
def record (dir : DirectionStats F) (packet : ParsedPacket) (now : TimePoint) :
    DirectionStats F where
  packetLen := dir.packetLen.add (DoubleOps.ofInt packet.totalLen.toNat)
  payloadLen := dir.payloadLen.add (DoubleOps.ofInt packet.payloadLen.toNat)
  iatUs :=
    if 0 < dir.packetLen.count then
      dir.iatUs.add (DoubleOps.ofInt (toMicroseconds (now - dir.lastSeen)))
    else dir.iatUs
  lastSeen := now
  syn := countIf dir.syn (hasFlag packet.tcpFlags thSyn)
  ack := countIf dir.ack (hasFlag packet.tcpFlags thAck)
  fin := countIf dir.fin (hasFlag packet.tcpFlags thFin)
  rst := countIf dir.rst (hasFlag packet.tcpFlags thRst)
  psh := countIf dir.psh (hasFlag packet.tcpFlags thPush)
  urg := countIf dir.urg (hasFlag packet.tcpFlags thUrg)

end DirectionStats

namespace Flow

variable {F : Type} [DoubleOps F]

/-- The new flow of a packet, before the packet is recorded in it. -/
def opened (packet : ParsedPacket) (direction : PacketDirection) (now : TimePoint) : Flow F where
  key := packet.tuple
  firstSeen := now
  lastSeen := 0
  forward := .zero
  backward := .zero
  origin := if direction = .outbound then .localInitiated else .remoteInitiated
  finHandshakeComplete := false

/-- One packet of the flow. Whether both directions have sent FIN is asked before the
packet is counted. -/
def record (flow : Flow F) (isForward : Bool) (packet : ParsedPacket) (now : TimePoint) :
    Flow F :=
  let bothFinSeen := decide (0 < flow.forward.fin) && decide (0 < flow.backward.fin)
  { flow with
    forward := if isForward then flow.forward.record packet now else flow.forward
    backward := if isForward then flow.backward else flow.backward.record packet now
    finHandshakeComplete := flow.finHandshakeComplete ||
      (bothFinSeen && hasFlag packet.tcpFlags thAck && !hasFlag packet.tcpFlags thFin)
    lastSeen := now }

@[simp] theorem record_key (flow : Flow F) (b : Bool) (packet : ParsedPacket) (now : TimePoint) :
    (flow.record b packet now).key = flow.key := rfl

@[simp] theorem record_origin (flow : Flow F) (b : Bool) (packet : ParsedPacket)
    (now : TimePoint) : (flow.record b packet now).origin = flow.origin := rfl

@[simp] theorem record_firstSeen (flow : Flow F) (b : Bool) (packet : ParsedPacket)
    (now : TimePoint) : (flow.record b packet now).firstSeen = flow.firstSeen := rfl

@[simp] theorem record_lastSeen (flow : Flow F) (b : Bool) (packet : ParsedPacket)
    (now : TimePoint) : (flow.record b packet now).lastSeen = now := rfl

@[simp] theorem opened_key (packet : ParsedPacket) (d : PacketDirection) (now : TimePoint) :
    (opened packet d now : Flow F).key = packet.tuple := rfl

@[simp] theorem opened_origin (packet : ParsedPacket) (d : PacketDirection) (now : TimePoint) :
    (opened packet d now : Flow F).origin =
      if d = .outbound then .localInitiated else .remoteInitiated := rfl

@[simp] theorem opened_firstSeen (packet : ParsedPacket) (d : PacketDirection)
    (now : TimePoint) : (opened packet d now : Flow F).firstSeen = now := rfl

/-- Why the flow has ended, if it has. -/
def endReason? (flow : Flow F) : Option FlowEndReason :=
  if 0 < flow.forward.rst || 0 < flow.backward.rst then some .tcpReset
  else if flow.finHandshakeComplete then some .tcpFin
  else none

end Flow

/-- The statistics of a source whose window opens now. -/
def SourceStats.opened (now : TimePoint) : SourceStats := ⟨∅, 0, now⟩

/-- One packet of the source. -/
def SourceStats.record (stats : SourceStats) (packet : ParsedPacket) : SourceStats :=
  { stats with
    recentDstPorts := insert packet.tuple.dstPort stats.recentDstPorts
    synCount := countIf stats.synCount (hasFlag packet.tcpFlags thSyn) }

/-! ## The manager -/

/-- The constant members of a flow manager, with the layouts of its two swept maps. -/
structure FlowParams where
  windowSeconds : Int
  maxFlows : Nat
  maxSources : Nat
  flowBuckets : Buckets FiveTuple
  sourceBuckets : Buckets UInt32

def maxFlowsDefault : Nat := 100000
def maxSourcesDefault : Nat := 100000
/-- `FLOW_TIMEOUT_SEC`: a flow is removed this long after its last packet. -/
def flowTimeoutSec : Int := 60

/-- The layouts of maps with `count` buckets. -/
def flowLayout (count : Nat) (h : 0 < count) : Buckets FiveTuple :=
  ⟨count, h, fun t => ⟨t.hash.toNat % count, Nat.mod_lt _ h⟩⟩

def sourceLayout (count : Nat) (h : 0 < count) : Buckets UInt32 :=
  ⟨count, h, fun ip => ⟨ip.toNat % count, Nat.mod_lt _ h⟩⟩

structure FlowManager (F : Type) where
  flows : Table FiveTuple (Flow F)
  flowKeysBySource : Table UInt32 (Finset FiveTuple)
  sourceStats : Table UInt32 SourceStats
  flowCursor : Nat
  sourceCursor : Nat

/-- The flow a packet was recorded in, after the packet. -/
structure UpdatedFlow (F : Type) where
  flow : Flow F
  isForward : Bool

namespace FlowManager

variable {F : Type}

def empty : FlowManager F := ⟨∅, ∅, ∅, 0, 0⟩

/-- The statistics a packet at `now` is counted in: none yet, a window that has ended, or
the current one. -/
def currentStats (c : FlowParams) (stats : Option SourceStats) (now : TimePoint) : SourceStats :=
  match stats with
  | none => .opened now
  | some stats =>
    if seconds c.windowSeconds ≤ now - stats.windowStart then .opened now else stats

def updateSourceStats (c : FlowParams) (m : FlowManager F) (packet : ParsedPacket)
    (now : TimePoint) : FlowManager F × Option SourceStats :=
  let srcIp := packet.tuple.srcIp
  if srcIp ∉ m.sourceStats ∧ c.maxSources ≤ m.sourceStats.size then
    (m, none)
  else
    let stats := (currentStats c (m.sourceStats.lookup srcIp) now).record packet
    ({ m with sourceStats := m.sourceStats.assign srcIp stats }, some stats)

section Flows

variable [DoubleOps F]

/-- Find the flow of a packet in either direction, or open one when there is room. -/
def updateFlow (c : FlowParams) (m : FlowManager F) (packet : ParsedPacket)
    (direction : PacketDirection) (now : TimePoint) : FlowManager F × Option (UpdatedFlow F) :=
  match m.flows.lookup packet.tuple with
  | some flow =>
    let flow := flow.record true packet now
    ({ m with flows := m.flows.assign packet.tuple flow }, some ⟨flow, true⟩)
  | none =>
    match m.flows.lookup packet.tuple.reversed with
    | some flow =>
      let flow := flow.record false packet now
      ({ m with flows := m.flows.assign packet.tuple.reversed flow }, some ⟨flow, false⟩)
    | none =>
      if m.flows.size < c.maxFlows then
        let flow := (Flow.opened packet direction now).record true packet now
        let srcIp := packet.tuple.srcIp
        let keys := (m.flowKeysBySource.lookup srcIp).getD ∅
        ({ m with
            flows := m.flows.assign packet.tuple flow
            flowKeysBySource := m.flowKeysBySource.assign srcIp (insert packet.tuple keys) },
          some ⟨flow, true⟩)
      else
        (m, none)

/-- Whether `observe_packet` passes the packet on to `update_source_stats`. A packet whose
flow could not be stored counts when it is inbound. -/
def counted (direction : PacketDirection) (updated : Option (UpdatedFlow F)) : Bool :=
  match updated with
  | none => direction = .inbound
  | some updated =>
    direction = .inbound && updated.isForward && updated.flow.origin = .remoteInitiated

def observePacket (c : FlowParams) (m : FlowManager F) (packet : ParsedPacket)
    (direction : PacketDirection) (now : TimePoint) : FlowManager F × Option SourceStats :=
  if direction = .unknown then
    (m, none)
  else
    let (m, updated) := updateFlow c m packet direction now
    if counted direction updated then updateSourceStats c m packet now else (m, none)

def addPacket (c : FlowParams) (m : FlowManager F) (packet : ParsedPacket) (now : TimePoint) :
    FlowManager F × Option SourceStats :=
  observePacket c m packet .inbound now

end Flows

/-- The map key under which the flow of a tuple is stored, in either direction. -/
def findKey (m : FlowManager F) (key : FiveTuple) : Option FiveTuple :=
  if key ∈ m.flows then some key
  else if key.reversed ∈ m.flows then some key.reversed
  else none

def getFlow (m : FlowManager F) (key : FiveTuple) : Option (Flow F) :=
  (m.flows.lookup key).or (m.flows.lookup key.reversed)

/-- Remove a flow key from the index, and a source left without keys. -/
def unindexFlow (index : Table UInt32 (Finset FiveTuple)) (key : FiveTuple) :
    Table UInt32 (Finset FiveTuple) :=
  match index.lookup key.srcIp with
  | none => index
  | some keys =>
    if keys.erase key = ∅ then index.erase key.srcIp
    else index.assign key.srcIp (keys.erase key)

def extractCompleted [DoubleOps F] (m : FlowManager F) (key : FiveTuple) :
    FlowManager F × Option (EndedFlow F) :=
  match m.findKey key with
  | none => (m, none)
  | some k =>
    match m.flows.lookup k with
    | none => (m, none)
    | some flow =>
      match flow.endReason? with
      | none => (m, none)
      | some reason =>
        ({ m with
            flows := m.flows.erase k
            flowKeysBySource := unindexFlow m.flowKeysBySource k },
          some ⟨flow, reason⟩)

/-- Erase the flows of every key indexed under the source, and its index entry. -/
def discardSourceFlows (m : FlowManager F) (srcIp : UInt32) : FlowManager F :=
  match m.flowKeysBySource.lookup srcIp with
  | none => m
  | some keys =>
    { m with
      flows := m.flows.filter fun k _ => decide (k ∉ keys)
      flowKeysBySource := m.flowKeysBySource.erase srcIp }

/-- The flow has had no packet for `FLOW_TIMEOUT_SEC`. -/
def flowExpired (now : TimePoint) (flow : Flow F) : Bool :=
  decide (seconds flowTimeoutSec ≤ now - flow.lastSeen)

/-- The window of the statistics has ended. -/
def windowEnded (c : FlowParams) (now : TimePoint) (stats : SourceStats) : Bool :=
  decide (seconds c.windowSeconds ≤ now - stats.windowStart)

/-- What the sweep does with an expired flow: unindex it and return it. -/
def expireFlow (flow : Flow F) (acc : Table UInt32 (Finset FiveTuple) × List (EndedFlow F)) :
    Table UInt32 (Finset FiveTuple) × List (EndedFlow F) :=
  (unindexFlow acc.1 flow.key, acc.2 ++ [⟨flow, .timeout⟩])

def cleanupExpired (c : FlowParams) (m : FlowManager F) (now : TimePoint) :
    FlowManager F × List (EndedFlow F) :=
  let sweptFlows := BucketSweep.sweep c.flowBuckets (flowExpired now) expireFlow m.flows
    m.flowCursor (m.flowKeysBySource, [])
  let sweptSources := BucketSweep.sweep c.sourceBuckets (windowEnded c now) (fun _ u => u)
    m.sourceStats m.sourceCursor ()
  ({ flows := sweptFlows.1
     flowKeysBySource := sweptFlows.2.2.1
     sourceStats := sweptSources.1
     flowCursor := sweptFlows.2.1
     sourceCursor := sweptSources.2.1 },
    sweptFlows.2.2.2)

/-! ## Runs -/

/-- A call of a public operation. -/
inductive FlowCall
  | observe (packet : ParsedPacket) (direction : PacketDirection) (now : TimePoint)
  | extract (key : FiveTuple)
  | discard (srcIp : UInt32)
  | cleanup (now : TimePoint)
  deriving DecidableEq

/-- The time a call is given. -/
def FlowCall.reads : FlowCall → List TimePoint
  | .observe _ _ now => [now]
  | .extract _ => []
  | .discard _ => []
  | .cleanup now => [now]

/-- What a call returns. -/
inductive FlowResult (F : Type)
  | stats (stats : Option SourceStats)
  | ended (flows : List (EndedFlow F))

def call [DoubleOps F] (c : FlowParams) (m : FlowManager F) :
    FlowCall → FlowManager F × FlowResult F
  | .observe packet direction now =>
    let (m, stats) := m.observePacket c packet direction now
    (m, .stats stats)
  | .extract key =>
    let (m, ended) := m.extractCompleted key
    (m, .ended ended.toList)
  | .discard srcIp => (m.discardSourceFlows srcIp, .ended [])
  | .cleanup now =>
    let (m, ended) := m.cleanupExpired c now
    (m, .ended ended)

end FlowManager

end InlineIps
