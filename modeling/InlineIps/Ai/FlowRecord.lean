import InlineIps.Flow.Flow

/-!
# Flow records and AI decisions

The record of an ended flow that goes to the AI client, the order of its features, and
the decisions that come back.
-/

namespace InlineIps

def flowFeatureCount : Nat := 27
def flowFeatureSchemaVersion : UInt32 := 1

structure FlowRecord (F : Type) where
  flowId : String
  key : FiveTuple
  firstSeenMs : Int
  lastSeenMs : Int
  endReason : FlowEndReason
  featureSchemaVersion : UInt32
  features : Vector F flowFeatureCount
  deriving DecidableEq

structure AiDecision (F : Type) where
  record : FlowRecord F
  anomaly : Bool
  score : F
  threshold : F
  modelVersion : String
  deriving DecidableEq

structure AiBlockEvent (F : Type) where
  flowId : String
  sourceIp : UInt32
  score : F
  threshold : F
  ttlSeconds : Int
  modelVersion : String
  deriving DecidableEq

section Features

variable {F : Type} [DoubleOps F]

def countSum (forward backward : UInt32) : F :=
  DoubleOps.ofInt forward.toNat + DoubleOps.ofInt backward.toNat

/-- The features in the order of the feature contract. -/
def flowToFeatures (flow : Flow F) : Vector F flowFeatureCount :=
  let forward := flow.forward
  let backward := flow.backward
  #v[
    DoubleOps.ofInt (toMicroseconds (flow.lastSeen - flow.firstSeen)),
    DoubleOps.ofInt forward.payloadLen.count,
    DoubleOps.ofInt backward.payloadLen.count,
    forward.payloadLen.sum,
    backward.payloadLen.sum,
    forward.payloadLen.max,
    forward.payloadLen.min,
    forward.payloadLen.mean,
    forward.payloadLen.stddev,
    backward.payloadLen.max,
    backward.payloadLen.min,
    backward.payloadLen.mean,
    backward.payloadLen.stddev,
    forward.iatUs.mean,
    forward.iatUs.stddev,
    forward.iatUs.max,
    forward.iatUs.min,
    backward.iatUs.mean,
    backward.iatUs.stddev,
    backward.iatUs.max,
    backward.iatUs.min,
    countSum forward.fin backward.fin,
    countSum forward.syn backward.syn,
    countSum forward.rst backward.rst,
    countSum forward.psh backward.psh,
    countSum forward.ack backward.ack,
    countSum forward.urg backward.urg]

end Features

def flowEndReasonToString : FlowEndReason → String
  | .tcpFin => "tcp_fin"
  | .tcpReset => "tcp_reset"
  | .timeout => "timeout"

end InlineIps
