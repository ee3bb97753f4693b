import Mathlib.Data.Finset.Basic
import InlineIps.Common.FiveTuple

/-!
# Flows and source statistics

The accumulators of a flow compute with `double`. They are written over any type with the
operations they use (`DoubleOps`); `Float` is the one the program runs with.
-/

namespace InlineIps

/-- The `double` operations of the program. -/
class DoubleOps (F : Type) extends Add F, Sub F, Mul F, Div F where
  /-- `static_cast<double>` of an integer. -/
  ofInt : Int → F
  sqrt : F → F
  lt : F → F → Bool

instance : DoubleOps Float where
  ofInt := Float.ofInt
  sqrt := Float.sqrt
  lt a b := decide (a < b)

/-- Minimum, maximum, mean and deviation from sums. `min` and `max` mean something only
when `count` is positive. In the source `count` has 64 bits; that it gets there is out of reach. -/
structure RunningStats (F : Type) where
  count : Nat
  sum : F
  sqSum : F
  min : F
  max : F
  deriving DecidableEq

namespace RunningStats

variable {F : Type} [DoubleOps F]

def zero : RunningStats F :=
  ⟨0, DoubleOps.ofInt 0, DoubleOps.ofInt 0, DoubleOps.ofInt 0, DoubleOps.ofInt 0⟩

def add (s : RunningStats F) (x : F) : RunningStats F where
  count := s.count + 1
  sum := s.sum + x
  sqSum := s.sqSum + x * x
  min := if s.count = 0 then x else if DoubleOps.lt x s.min then x else s.min
  max := if s.count = 0 then x else if DoubleOps.lt s.max x then x else s.max

def mean (s : RunningStats F) : F :=
  if s.count = 0 then DoubleOps.ofInt 0 else s.sum / DoubleOps.ofInt s.count

def stddev (s : RunningStats F) : F :=
  if s.count < 2 then DoubleOps.ofInt 0
  else
    let n : F := DoubleOps.ofInt s.count
    let var := (s.sqSum - s.sum * s.sum / n) / (n - DoubleOps.ofInt 1)
    if DoubleOps.lt (DoubleOps.ofInt 0) var then DoubleOps.sqrt var else DoubleOps.ofInt 0

end RunningStats

/-! ## TCP flags -/

def thFin : UInt8 := 0x01
def thSyn : UInt8 := 0x02
def thRst : UInt8 := 0x04
def thPush : UInt8 := 0x08
def thAck : UInt8 := 0x10
def thUrg : UInt8 := 0x20

/-- The flag is set in the flag octet. -/
def hasFlag (flags flag : UInt8) : Bool := flags &&& flag != 0

/-- `if (flag) ++counter` on a 32-bit counter. -/
def countIf (counter : UInt32) (c : Bool) : UInt32 := if c then counter + 1 else counter

/-- The raw material of one direction of a flow. -/
structure DirectionStats (F : Type) where
  packetLen : RunningStats F
  payloadLen : RunningStats F
  iatUs : RunningStats F
  lastSeen : TimePoint
  syn : UInt32
  ack : UInt32
  fin : UInt32
  rst : UInt32
  psh : UInt32
  urg : UInt32
  deriving DecidableEq

def DirectionStats.zero {F : Type} [DoubleOps F] : DirectionStats F :=
  ⟨.zero, .zero, .zero, 0, 0, 0, 0, 0, 0, 0⟩

inductive FlowOrigin
  | remoteInitiated
  | localInitiated
  deriving DecidableEq, Repr

/-- One conversation. `key` is the tuple of the packet that opened it. -/
structure Flow (F : Type) where
  key : FiveTuple
  firstSeen : TimePoint
  lastSeen : TimePoint
  forward : DirectionStats F
  backward : DirectionStats F
  origin : FlowOrigin
  finHandshakeComplete : Bool
  deriving DecidableEq

inductive FlowEndReason
  | tcpFin
  | tcpReset
  | timeout
  deriving DecidableEq, Repr

structure EndedFlow (F : Type) where
  flow : Flow F
  reason : FlowEndReason
  deriving DecidableEq

/-- Statistics of one source address over the current window. -/
structure SourceStats where
  recentDstPorts : Finset UInt16
  synCount : UInt32
  windowStart : TimePoint
  deriving DecidableEq

end InlineIps
