import InlineIps.Ai.FlowRecord
import InlineIps.Detect.RuleEngine
import InlineIps.Flow.FlowManager
import InlineIps.Response.BlockList

/-!
# The packet pipeline

`PacketCapture` passes every packet through whitelist, block list, flow table and rules,
and on every tick applies the drained AI decisions and cleans up.

An event of a run is a packet or a tick together with the readings of the clock during
its handling: `now` is the first one, and `later` are those that `consume_flow` takes. A
clock that is read more often than that stands still.

Besides the verdict a step has effects, in order: block events, calls of the AI block
handler and records handed to the flow consumer.
-/

namespace InlineIps

open Library

/-- What stays fixed over a run: the configuration, the whitelist, the layouts of the
swept maps and the two clock anchors. -/
structure CaptureParams where
  config : Config
  whitelist : Whitelist
  flowBuckets : Buckets FiveTuple
  sourceBuckets : Buckets UInt32
  steadyAnchor : TimePoint
  wallAnchor : Int

namespace CaptureParams

/-- The flow manager is made with the default caps. -/
def flowParams (c : CaptureParams) : FlowParams where
  windowSeconds := c.config.windowSeconds
  maxFlows := maxFlowsDefault
  maxSources := maxSourcesDefault
  flowBuckets := c.flowBuckets
  sourceBuckets := c.sourceBuckets

def rules (c : CaptureParams) : List Rule := RuleEngine.rules c.config

def sensorInstanceId (c : CaptureParams) : String := toString (toMicroseconds c.wallAnchor)

def toEpochMs (c : CaptureParams) (point : TimePoint) : Int :=
  toMilliseconds (c.wallAnchor + (point - c.steadyAnchor))

def flowId (c : CaptureParams) (sequence : Nat) : String :=
  c.sensorInstanceId ++ "-" ++ toString sequence

end CaptureParams

structure PacketCapture (F : Type) where
  blockList : BlockList
  flowManager : FlowManager F
  ruleBlocks : Nat
  aiNewBlocks : Nat
  aiDuplicates : Nat
  aiWhitelisted : Nat
  nextFlowSequence : Nat

def PacketCapture.initial {F : Type} : PacketCapture F := ⟨∅, .empty, 0, 0, 0, 0, 1⟩

/-! ## Events and effects -/

inductive CaptureInput (F : Type)
  | packet (data : List UInt8) (direction : PacketDirection)
  | tick (decisions : List (AiDecision F))
  deriving DecidableEq

structure CaptureEvent (F : Type) where
  input : CaptureInput F
  now : TimePoint
  later : List TimePoint
  deriving DecidableEq

/-- The readings of the clock, in order. -/
def CaptureEvent.reads {F : Type} (e : CaptureEvent F) : List TimePoint := e.now :: e.later

/-- A record handed to the consumer is kept together with the flow it was made of and the
time of the last check before. -/
inductive CaptureEffect (F : Type)
  | ruleBlock (event : BlockList.BlockEvent)
  | aiBlock (event : BlockList.BlockEvent)
  | notify (event : AiBlockEvent F)
  | consume (record : FlowRecord F) (ended : EndedFlow F) (time : TimePoint)
  deriving DecidableEq

/-- The block event of an effect. -/
def CaptureEffect.blockEvent? {F : Type} : CaptureEffect F → Option BlockList.BlockEvent
  | ruleBlock event => some event
  | aiBlock event => some event
  | notify _ => none
  | consume .. => none

/-- The record that an effect hands to the consumer. -/
def CaptureEffect.record? {F : Type} : CaptureEffect F → Option (FlowRecord F)
  | ruleBlock _ => none
  | aiBlock _ => none
  | notify _ => none
  | consume record _ _ => some record

/-- The block events among effects, in order. -/
def blockEvents {F : Type} (effects : List (CaptureEffect F)) : List BlockList.BlockEvent :=
  effects.filterMap CaptureEffect.blockEvent?

/-- What a step gives back: the verdict of a packet, the effects, and the calls of the flow
manager made on the way. -/
structure CaptureOutput (F : Type) where
  verdict : Option Bool
  effects : List (CaptureEffect F)
  calls : List FlowManager.FlowCall

/-- The handling of an event: the state, the last reading of the clock, the readings still
to come, and the effects and flow manager calls so far. -/
structure Handling (F : Type) where
  capture : PacketCapture F
  clock : TimePoint
  later : List TimePoint
  effects : List (CaptureEffect F)
  calls : List FlowManager.FlowCall

namespace Handling

variable {F : Type}

def start (s : PacketCapture F) (e : CaptureEvent F) : Handling F := ⟨s, e.now, e.later, [], []⟩

/-- `Clock::now()` -/
def readClock (h : Handling F) : Handling F :=
  match h.later with
  | [] => h
  | t :: later => { h with clock := t, later := later }

def emit (h : Handling F) (effect : CaptureEffect F) : Handling F :=
  { h with effects := h.effects ++ [effect] }

def withCapture (h : Handling F) (s : PacketCapture F) : Handling F := { h with capture := s }

/-- The flow manager after a call of it. -/
def withFlows (h : Handling F) (call : FlowManager.FlowCall) (m : FlowManager F) : Handling F :=
  { h with capture := { h.capture with flowManager := m }, calls := h.calls ++ [call] }

/-- Discard the flows of an address and block it. -/
def discardAndBlock (c : CaptureParams) (h : Handling F) (ip : UInt32) (now : TimePoint) :
    Handling F :=
  let h := h.withFlows (.discard ip) (h.capture.flowManager.discardSourceFlows ip)
  h.withCapture { h.capture with
    blockList := h.capture.blockList.block ip c.config.blockTtlSeconds now }

variable [DoubleOps F]

def observe (c : CaptureParams) (h : Handling F) (packet : ParsedPacket)
    (direction : PacketDirection) (now : TimePoint) : Handling F × Option SourceStats :=
  let (m, stats) := h.capture.flowManager.observePacket c.flowParams packet direction now
  (h.withFlows (.observe packet direction now) m, stats)

def extract (h : Handling F) (key : FiveTuple) : Handling F × Option (EndedFlow F) :=
  let (m, completed) := h.capture.flowManager.extractCompleted key
  (h.withFlows (.extract key) m, completed)

def expire (c : CaptureParams) (h : Handling F) (now : TimePoint) :
    Handling F × List (EndedFlow F) :=
  let (m, expired) := h.capture.flowManager.cleanupExpired c.flowParams now
  (h.withFlows (.cleanup now) m, expired)

end Handling

/-! ## Handlers -/

namespace PacketCapture

variable {F : Type} [DoubleOps F]

/-- The record of an ended flow. -/
def makeRecord (c : CaptureParams) (sequence : Nat) (ended : EndedFlow F) : FlowRecord F where
  flowId := c.flowId sequence
  key := ended.flow.key
  firstSeenMs := c.toEpochMs ended.flow.firstSeen
  lastSeenMs := c.toEpochMs ended.flow.lastSeen
  endReason := ended.reason
  featureSchemaVersion := flowFeatureSchemaVersion
  features := flowToFeatures ended.flow

/-- Hand a record to the consumer under the next flow id. -/
def submit (c : CaptureParams) (h : Handling F) (ended : EndedFlow F) : Handling F :=
  let sequence := h.capture.nextFlowSequence
  (h.withCapture { h.capture with nextFlowSequence := sequence + 1 }).emit
    (.consume (makeRecord c sequence ended) ended h.clock)

def consumeFlow (c : CaptureParams) (h : Handling F) (ended : EndedFlow F) : Handling F :=
  if ended.flow.origin ≠ .remoteInitiated then h
  else if ended.flow.forward.payloadLen.count + ended.flow.backward.payloadLen.count ≤ 1 then h
  else
    let srcIp := ended.flow.key.srcIp
    let h := h.readClock
    if c.whitelist.isWhitelisted srcIp || h.capture.blockList.isBlocked srcIp h.clock then h
    else submit c h ended

/-- Take out the flow of a packet if it has ended, and consume it. -/
def finishFlow (c : CaptureParams) (h : Handling F) (packet : ParsedPacket) : Handling F :=
  let (h, completed) := h.extract packet.tuple
  completed.toList.foldl (consumeFlow c) h

/-- Block the source of a packet that hit a rule. -/
def blockByRule (c : CaptureParams) (h : Handling F) (srcIp : UInt32) (now : TimePoint) :
    Handling F :=
  let h := h.discardAndBlock c srcIp now
  let h := h.withCapture { h.capture with ruleBlocks := h.capture.ruleBlocks + 1 }
  h.emit (.ruleBlock ⟨srcIp, now⟩)

def handleInbound (c : CaptureParams) (h : Handling F) (packet : ParsedPacket)
    (now : TimePoint) : Handling F × Bool :=
  let srcIp := packet.tuple.srcIp
  if c.whitelist.isWhitelisted srcIp then (h, true)
  else if h.capture.blockList.isBlocked srcIp now then (h, false)
  else if !packet.hasPorts then (h, true)
  else
    let (h, stats) := h.observe c packet .inbound now
    match stats.bind (RuleEngine.check c.rules) with
    | some _ => (blockByRule c h srcIp now, false)
    | none => (finishFlow c h packet, true)

def handleOutbound (c : CaptureParams) (h : Handling F) (packet : ParsedPacket)
    (now : TimePoint) : Handling F × Bool :=
  let dstIp := packet.tuple.dstIp
  if c.whitelist.isWhitelisted dstIp || h.capture.blockList.isBlocked dstIp now ||
      !packet.hasPorts then (h, true)
  else
    let (h, _) := h.observe c packet .outbound now
    (finishFlow c h packet, true)

def onPacket (c : CaptureParams) (h : Handling F) (data : List UInt8)
    (direction : PacketDirection) : Handling F × Bool :=
  if direction = .unknown then (h, true)
  else
    let now := h.clock
    match PacketParser.parse data with
    | none => (h, true)
    | some packet =>
      if direction = .inbound then handleInbound c h packet now
      else handleOutbound c h packet now

/-- Block the source of an anomalous flow, and tell the block handler. -/
def blockByAi (c : CaptureParams) (h : Handling F) (decision : AiDecision F) (now : TimePoint) :
    Handling F :=
  let sourceIp := decision.record.key.srcIp
  let h := h.discardAndBlock c sourceIp now
  let h := h.withCapture { h.capture with aiNewBlocks := h.capture.aiNewBlocks + 1 }
  (h.emit (.aiBlock ⟨sourceIp, now⟩)).emit
    (.notify
      { flowId := decision.record.flowId
        sourceIp := sourceIp
        score := decision.score
        threshold := decision.threshold
        ttlSeconds := c.config.blockTtlSeconds
        modelVersion := decision.modelVersion })

/-- One drained decision. -/
def applyAiDecision (c : CaptureParams) (now : TimePoint) (h : Handling F)
    (decision : AiDecision F) : Handling F :=
  if !decision.anomaly then h
  else
    let sourceIp := decision.record.key.srcIp
    if c.whitelist.isWhitelisted sourceIp then
      h.withCapture { h.capture with aiWhitelisted := h.capture.aiWhitelisted + 1 }
    else if h.capture.blockList.isBlocked sourceIp now then
      h.withCapture { h.capture with aiDuplicates := h.capture.aiDuplicates + 1 }
    else blockByAi c h decision now

def applyAiDecisions (c : CaptureParams) (now : TimePoint) (h : Handling F)
    (decisions : List (AiDecision F)) : Handling F :=
  decisions.foldl (applyAiDecision c now) h

/-- A cleanup of the block list that releases at most `limit` entries. -/
def releaseBlocks (limit : Nat) (h : Handling F) (now : TimePoint) : Handling F :=
  h.withCapture { h.capture with
    blockList := BlockList.cleanupUpTo limit h.capture.blockList now }

/-- A tick whose block list cleanup releases at most `limit` entries. -/
def onTickUpTo (limit : Nat) (c : CaptureParams) (h : Handling F)
    (decisions : List (AiDecision F)) : Handling F :=
  let now := h.clock
  let h := applyAiDecisions c now h decisions
  let (h, expired) := h.expire c now
  releaseBlocks limit (expired.foldl (consumeFlow c) h) now

def onTick (c : CaptureParams) (h : Handling F) (decisions : List (AiDecision F)) : Handling F :=
  onTickUpTo BlockList.maxExpiryCleanupsPerTick c h decisions

/-- The handling of one event, given the limit of its block list cleanup. -/
def handleUpTo (limit : Nat) (c : CaptureParams) (s : PacketCapture F) (e : CaptureEvent F) :
    Handling F × Option Bool :=
  match e.input with
  | .packet data direction =>
    let (h, verdict) := onPacket c (.start s e) data direction
    (h, some verdict)
  | .tick decisions => (onTickUpTo limit c (.start s e) decisions, none)

def stepUpTo (limit : Nat) (c : CaptureParams) (s : PacketCapture F) (e : CaptureEvent F) :
    PacketCapture F × CaptureOutput F :=
  let (h, verdict) := handleUpTo limit c s e
  (h.capture, ⟨verdict, h.effects, h.calls⟩)

/-- One step of the program. -/
def step (c : CaptureParams) (s : PacketCapture F) (e : CaptureEvent F) :
    PacketCapture F × CaptureOutput F :=
  stepUpTo BlockList.maxExpiryCleanupsPerTick c s e

/-- The state after a run. -/
def run (c : CaptureParams) (events : List (CaptureEvent F)) : PacketCapture F :=
  Machine.exec (step c) .initial events

/-- The effects of a run, in order. -/
def effectsOf (c : CaptureParams) (events : List (CaptureEvent F)) : List (CaptureEffect F) :=
  (Machine.trace (step c) .initial events).flatMap fun taken => taken.output.effects

/-- The flow manager calls of a run, in order. -/
def callsOf (c : CaptureParams) (events : List (CaptureEvent F)) : List FlowManager.FlowCall :=
  (Machine.trace (step c) .initial events).flatMap fun taken => taken.output.calls

end PacketCapture

end InlineIps
