import InlineIps.Common.FiveTuple

/-!
# The packet parser

`PacketParser::parse` over raw bytes from the IP header on. The parser is written over an
arbitrary way of reading a byte, so that the same definition gives the result
(`parse`, bytes read from a list) and what is read on the way. Sizes are natural numbers;
the two subtractions that are narrowed to 16 bits are integer subtractions reduced modulo
`2^16`, which is what unsigned wrap-around and narrowing give.
-/

namespace InlineIps

/-- The hook a packet was queued from. -/
inductive PacketDirection
  | inbound
  | outbound
  | unknown
  deriving DecidableEq, Repr

/-- The result of parsing one packet. Ports, flags and payload length are `0` when
`hasPorts` is false. -/
structure ParsedPacket where
  tuple : FiveTuple
  totalLen : UInt16
  payloadLen : UInt16
  hasPorts : Bool
  tcpFlags : UInt8
  deriving DecidableEq, Repr

namespace PacketParser

def ipHeaderBytes : Nat := 20
def tcpHeaderBytes : Nat := 20
def udpHeaderBytes : Nat := 8
def ipVersion : Nat := 4
def ipProtoTcp : UInt8 := 6
def ipProtoUdp : UInt8 := 17
/-- `IP_OFFMASK`. -/
def ipOffMask : Nat := 0x1fff

/-- `ntohs` of the two bytes at an offset. -/
def ntohsAt (bytes : List UInt8) (i : Nat) : UInt16 :=
  UInt16.ofNat ((bytes.getD i 0).toNat * 256 + (bytes.getD (i + 1) 0).toNat)

/-- The four bytes at an offset, kept in memory order. -/
def addressAt (bytes : List UInt8) (i : Nat) : UInt32 :=
  UInt32.ofNat ((bytes.getD i 0).toNat + (bytes.getD (i + 1) 0).toNat * 256 +
    (bytes.getD (i + 2) 0).toNat * 65536 + (bytes.getD (i + 3) 0).toNat * 16777216)

/-- `static_cast<uint16_t>` of a difference of sizes. -/
def narrow16 (d : Int) : UInt16 := UInt16.ofNat (d % 65536).toNat

section Reader

variable {m : Type → Type} [Monad m] (read : Nat → m UInt8)

/-- `std::memcpy` of `n` bytes from an offset. -/
def memcpy (offset n : Nat) : m (List UInt8) :=
  (List.range n).mapM fun i => read (offset + i)

/-- The transport part for TCP. -/
def parseTcp (packet : ParsedPacket) (ipHeaderLen transportLen : Nat) : m ParsedPacket := do
  if transportLen < tcpHeaderBytes then
    return packet
  let tcpHeader ← memcpy read ipHeaderLen tcpHeaderBytes
  let tcpHeaderLen := (tcpHeader.getD 12 0).toNat / 16 * 4
  if tcpHeaderLen < tcpHeaderBytes || tcpHeaderLen > transportLen ||
      ipHeaderLen + tcpHeaderLen > packet.totalLen.toNat then
    return packet
  let flags ← read (ipHeaderLen + 13)
  return { packet with
    tuple := { packet.tuple with srcPort := ntohsAt tcpHeader 0, dstPort := ntohsAt tcpHeader 2 }
    tcpFlags := flags
    payloadLen := narrow16 (packet.totalLen.toNat - ipHeaderLen - tcpHeaderLen)
    hasPorts := true }

/-- The transport part for UDP. -/
def parseUdp (packet : ParsedPacket) (ipHeaderLen transportLen : Nat) : m ParsedPacket := do
  if transportLen < udpHeaderBytes then
    return packet
  let udpHeader ← memcpy read ipHeaderLen udpHeaderBytes
  let udpLen := (ntohsAt udpHeader 4).toNat
  if udpLen < udpHeaderBytes || ipHeaderLen + udpLen > packet.totalLen.toNat then
    return packet
  return { packet with
    tuple := { packet.tuple with srcPort := ntohsAt udpHeader 0, dstPort := ntohsAt udpHeader 2 }
    payloadLen := narrow16 (udpLen - udpHeaderBytes)
    hasPorts := true }

/-- `PacketParser::parse` on a buffer of `len` bytes behind `read`. -/
def parseWith (len : Nat) : m (Option ParsedPacket) := do
  if len < ipHeaderBytes then
    return none
  let ipHeader ← memcpy read 0 ipHeaderBytes
  if (ipHeader.getD 0 0).toNat / 16 != ipVersion then
    return none
  let ipHeaderLen := (ipHeader.getD 0 0).toNat % 16 * 4
  if ipHeaderLen < ipHeaderBytes then
    return none
  -- From here the source address is known, so a transport header that cannot be read gives
  -- a packet without ports rather than no packet.
  let packet : ParsedPacket :=
    { tuple :=
        { srcIp := addressAt ipHeader 12
          dstIp := addressAt ipHeader 16
          srcPort := 0
          dstPort := 0
          protocol := ipHeader.getD 9 0 }
      totalLen := ntohsAt ipHeader 2
      payloadLen := 0
      hasPorts := false
      tcpFlags := 0 }
  if packet.totalLen.toNat < ipHeaderLen then
    return some packet
  if (ntohsAt ipHeader 6).toNat &&& ipOffMask != 0 then
    return some packet
  if len < ipHeaderLen then
    return some packet
  let transportLen := len - ipHeaderLen
  if packet.tuple.protocol == ipProtoTcp then
    return some (← parseTcp read packet ipHeaderLen transportLen)
  if packet.tuple.protocol == ipProtoUdp then
    return some (← parseUdp read packet ipHeaderLen transportLen)
  return some packet

end Reader

/-- `PacketParser::parse` on a list of bytes. -/
def parse (data : List UInt8) : Option ParsedPacket :=
  Id.run (parseWith (fun i => pure (data.getD i 0)) data.length)

end PacketParser

end InlineIps
