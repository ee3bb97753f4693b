import Mathlib.Algebra.Ring.Nat
import Mathlib.Data.Finset.Basic

/-!
# Clock and five-tuples

Times of the monotonic clock are integers in nanoseconds. IPv4 addresses are 32-bit
numbers whose bytes in memory are the address in network order: on the little-endian
target the first byte of the dotted notation is the least significant one. Ports are in
host order.
-/

namespace InlineIps

/-- A reading of the monotonic clock, in nanoseconds. -/
abbrev TimePoint := Int

/-- `std::chrono::seconds`, in nanoseconds. -/
def seconds (n : Int) : Int := n * 1000000000

/-- `duration_cast<microseconds>`: truncation toward zero. -/
def toMicroseconds (d : Int) : Int := d.tdiv 1000

/-- `duration_cast<milliseconds>`: truncation toward zero. -/
def toMilliseconds (d : Int) : Int := d.tdiv 1000000

/-- The byte of an address at a memory offset. -/
def addressByte (ip : UInt32) (i : Nat) : Nat := ip.toNat / 256 ^ i % 256

/-- The dotted decimal notation of an address in network order. -/
def ipToString (ip : UInt32) : String :=
  toString (addressByte ip 0) ++ "." ++ toString (addressByte ip 1) ++ "." ++
    toString (addressByte ip 2) ++ "." ++ toString (addressByte ip 3)

/-- The five fields that identify one direction of a flow. -/
structure FiveTuple where
  srcIp : UInt32
  dstIp : UInt32
  srcPort : UInt16
  dstPort : UInt16
  protocol : UInt8
  deriving DecidableEq, Repr

/-- The key of the reply direction. -/
def FiveTuple.reversed (t : FiveTuple) : FiveTuple :=
  ⟨t.dstIp, t.srcIp, t.dstPort, t.srcPort, t.protocol⟩

/-- `FiveTupleHash`. The hash of an address is the address. -/
def FiveTuple.hash (t : FiveTuple) : UInt64 :=
  let h := t.srcIp.toUInt64
  let h := h * 31 + t.dstIp.toUInt64
  let h := h * 31 + t.srcPort.toUInt64
  let h := h * 31 + t.dstPort.toUInt64
  h * 31 + t.protocol.toUInt64

@[simp] theorem FiveTuple.reversed_reversed (t : FiveTuple) : t.reversed.reversed = t := rfl

theorem FiveTuple.reversed_eq_iff {t u : FiveTuple} : t.reversed = u ↔ t = u.reversed := by
  constructor <;> rintro rfl <;> simp

end InlineIps
