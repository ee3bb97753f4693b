import Mathlib.Tactic.Common
import InlineIps.Capture.PacketParser

/-!
# The grammar of the packet parser

What `PacketParser::parse` accepts, in terms of the bytes of the buffer: the header fields, and
when a transport header can be read.

* `parseWith_eq`: the parser reads inside the buffer only, whatever it holds, and its result is
  `decode`.
* `parse_grammar`: what is accepted, and the fields of the result.
* `parse_take`: the first 128 bytes decide the result.
-/

namespace InlineIps.PacketParser

/-! ## Header fields -/

section Fields

variable (byte : Nat → UInt8)

/-- The two bytes at an offset as a number in network order. -/
def word (i : Nat) : Nat := (byte i).toNat * 256 + (byte (i + 1)).toNat

def version : Nat := (byte 0).toNat / 16

/-- The length of the IP header in units of four bytes. -/
def ihl : Nat := (byte 0).toNat % 16

def totalLength : Nat := word byte 2

def fragmentOffset : Nat := word byte 6 % 8192

def protocol : UInt8 := byte 9

/-- The length of the TCP header in units of four bytes. -/
def dataOffset : Nat := (byte (4 * ihl byte + 12)).toNat / 16

def udpLength : Nat := word byte (4 * ihl byte + 4)

/-- The address at an offset, first byte first. -/
def address (i : Nat) : UInt32 :=
  UInt32.ofNat ((byte i).toNat + (byte (i + 1)).toNat * 256 + (byte (i + 2)).toNat * 65536 +
    (byte (i + 3)).toNat * 16777216)

variable (len : Nat)

/-- The buffer holds the start of an IPv4 header. -/
def IsIpv4 : Prop := 20 ≤ len ∧ version byte = 4 ∧ 5 ≤ ihl byte

/-- The buffer holds the whole IP header, and what follows is the start of the payload. -/
def PayloadFollows : Prop :=
  4 * ihl byte ≤ len ∧ 4 * ihl byte ≤ totalLength byte ∧ fragmentOffset byte = 0

/-- The buffer and the packet hold the whole TCP header. -/
def TcpReadable : Prop :=
  protocol byte = ipProtoTcp ∧ 20 ≤ len - 4 * ihl byte ∧ 20 ≤ 4 * dataOffset byte ∧
    4 * dataOffset byte ≤ len - 4 * ihl byte ∧
    4 * ihl byte + 4 * dataOffset byte ≤ totalLength byte

/-- The buffer holds the UDP header, and the packet the whole datagram. -/
def UdpReadable : Prop :=
  protocol byte = ipProtoUdp ∧ 8 ≤ len - 4 * ihl byte ∧ 8 ≤ udpLength byte ∧
    4 * ihl byte + udpLength byte ≤ totalLength byte

instance : Decidable (IsIpv4 byte len) := inferInstanceAs (Decidable (_ ∧ _ ∧ _))
instance : Decidable (PayloadFollows byte len) := inferInstanceAs (Decidable (_ ∧ _ ∧ _))
instance : Decidable (TcpReadable byte len) := inferInstanceAs (Decidable (_ ∧ _ ∧ _ ∧ _ ∧ _))
instance : Decidable (UdpReadable byte len) := inferInstanceAs (Decidable (_ ∧ _ ∧ _ ∧ _))

/-- A packet of which only the IP header is known. -/
def portless : ParsedPacket where
  tuple := ⟨address byte 12, address byte 16, 0, 0, protocol byte⟩
  totalLen := UInt16.ofNat (totalLength byte)
  payloadLen := 0
  hasPorts := false
  tcpFlags := 0

/-- A packet with the ports at the start of the transport header. -/
def ported (payloadLen : Nat) (tcpFlags : UInt8) : ParsedPacket where
  tuple := ⟨address byte 12, address byte 16, UInt16.ofNat (word byte (4 * ihl byte)),
    UInt16.ofNat (word byte (4 * ihl byte + 2)), protocol byte⟩
  totalLen := UInt16.ofNat (totalLength byte)
  payloadLen := UInt16.ofNat payloadLen
  hasPorts := true
  tcpFlags := tcpFlags

/-- What the parser makes of a buffer of `len` bytes. -/
def decode : Option ParsedPacket :=
  if IsIpv4 byte len then
    some (if PayloadFollows byte len then
      if TcpReadable byte len then
        ported byte (totalLength byte - 4 * ihl byte - 4 * dataOffset byte)
          (byte (4 * ihl byte + 13))
      else if UdpReadable byte len then ported byte (udpLength byte - 8) 0
      else portless byte
    else portless byte)
  else none

end Fields

/-! ## Reading -/

section Reading

variable {m : Type → Type} [Monad m] [LawfulMonad m] {read : Nat → m UInt8} {byte : Nat → UInt8}
  {len : Nat}

/-- The bytes that are copied. -/
def copied (byte : Nat → UInt8) (offset n : Nat) : List UInt8 :=
  (List.range n).map fun i => byte (offset + i)

theorem mapM_eq_pure {A B : Type} {f : A → m B} {g : A → B} {l : List A}
    (h : ∀ a ∈ l, f a = pure (g a)) : l.mapM f = pure (l.map g) := by
  induction l with
  | nil => simp
  | cons a l ih =>
    rw [List.mapM_cons, h a List.mem_cons_self, ih fun b hb => h b (List.mem_cons_of_mem _ hb)]
    simp

/-- A copy inside the buffer gives its bytes. -/
theorem memcpy_eq (hread : ∀ i < len, read i = pure (byte i)) {offset n : Nat}
    (hn : offset + n ≤ len) : memcpy read offset n = pure (copied byte offset n) :=
  mapM_eq_pure fun i hi => hread (offset + i) (by have := List.mem_range.mp hi; omega)

theorem getD_copied {offset n i : Nat} (hi : i < n) :
    (copied byte offset n).getD i 0 = byte (offset + i) := by
  simp [copied, List.getD, hi]

theorem ntohsAt_copied {offset n i : Nat} (hi : i + 1 < n) :
    ntohsAt (copied byte offset n) i = UInt16.ofNat (word byte (offset + i)) := by
  rw [ntohsAt, getD_copied (by omega), getD_copied hi]
  rfl

theorem addressAt_copied {offset n i : Nat} (hi : i + 3 < n) :
    addressAt (copied byte offset n) i = address byte (offset + i) := by
  rw [addressAt, getD_copied (by omega), getD_copied (by omega), getD_copied (by omega),
    getD_copied hi]
  rfl

theorem word_lt (byte : Nat → UInt8) (i : Nat) : word byte i < 65536 := by
  have hhigh := (byte i).toNat_lt
  have hlow := (byte (i + 1)).toNat_lt
  unfold word
  omega

theorem toNat_word (byte : Nat → UInt8) (i : Nat) :
    (UInt16.ofNat (word byte i)).toNat = word byte i :=
  UInt16.toNat_ofNat_of_lt (word_lt byte i)

/-- A difference of sizes that is neither negative nor too large is not narrowed. -/
theorem narrow16_sub {a b : Nat} (h : b ≤ a) (ha : a < 65536) :
    narrow16 ((a : Int) - b) = UInt16.ofNat (a - b) := by
  unfold narrow16
  congr 1
  omega

/-- The mask keeps the low thirteen bits. -/
theorem mask_eq (n : Nat) : n &&& ipOffMask = n % 8192 := Nat.and_two_pow_sub_one_eq_mod n 13

theorem parseTcp_eq (hread : ∀ i < len, read i = pure (byte i)) (hheader : 4 * ihl byte ≤ len)
    (hprotocol : protocol byte = ipProtoTcp) :
    parseTcp read (portless byte) (4 * ihl byte) (len - 4 * ihl byte) =
      pure (if TcpReadable byte len then
        ported byte (totalLength byte - 4 * ihl byte - 4 * dataOffset byte)
          (byte (4 * ihl byte + 13))
      else portless byte) := by
  unfold parseTcp
  by_cases hshort : len - 4 * ihl byte < tcpHeaderBytes
  · have hunreadable : ¬ TcpReadable byte len := fun h => absurd h.2.1 (Nat.not_le.mpr hshort)
    rw [if_pos hshort, if_neg hunreadable]
  have hroom : 4 * ihl byte + tcpHeaderBytes ≤ len := by omega
  rw [if_neg hshort, memcpy_eq hread hroom, pure_bind]
  have hoffset : (List.getD (copied byte (4 * ihl byte) tcpHeaderBytes) 12 0).toNat / 16 * 4 =
      4 * dataOffset byte := by
    rw [getD_copied (by decide), Nat.mul_comm]
    rfl
  have htotal : (portless byte).totalLen.toNat = totalLength byte := toNat_word byte 2
  simp only [hoffset, htotal]
  by_cases hreadable : TcpReadable byte len
  · obtain ⟨-, -, hmin, hmax, hpacket⟩ := id hreadable
    rw [if_pos hreadable, if_neg, hread _ (by unfold tcpHeaderBytes at hroom; omega), pure_bind]
    · have hnarrow : narrow16 ((totalLength byte : Int) - (4 * ihl byte : Nat) -
          (4 * dataOffset byte : Nat)) =
          UInt16.ofNat (totalLength byte - 4 * ihl byte - 4 * dataOffset byte) := by
        have hsub : (totalLength byte : Int) - (4 * ihl byte : Nat) - (4 * dataOffset byte : Nat) =
            (totalLength byte : Int) - (4 * ihl byte + 4 * dataOffset byte : Nat) := by omega
        rw [hsub, narrow16_sub hpacket (word_lt byte 2), Nat.sub_add_eq]
      rw [ntohsAt_copied (by decide), ntohsAt_copied (by decide)]
      rw [hnarrow]
      rfl
    · simp only [Bool.or_eq_true, decide_eq_true_eq]
      unfold tcpHeaderBytes
      omega
  · rw [if_neg hreadable, if_pos]
    simp only [Bool.or_eq_true, decide_eq_true_eq]
    by_contra hnot
    refine hreadable ⟨hprotocol, ?_, ?_, ?_, ?_⟩ <;> unfold tcpHeaderBytes at * <;> omega

theorem parseUdp_eq (hread : ∀ i < len, read i = pure (byte i)) (hheader : 4 * ihl byte ≤ len)
    (hprotocol : protocol byte = ipProtoUdp) :
    parseUdp read (portless byte) (4 * ihl byte) (len - 4 * ihl byte) =
      pure (if UdpReadable byte len then ported byte (udpLength byte - 8) 0
      else portless byte) := by
  unfold parseUdp
  by_cases hshort : len - 4 * ihl byte < udpHeaderBytes
  · have hunreadable : ¬ UdpReadable byte len := fun h => absurd h.2.1 (Nat.not_le.mpr hshort)
    rw [if_pos hshort, if_neg hunreadable]
  have hroom : 4 * ihl byte + udpHeaderBytes ≤ len := by omega
  rw [if_neg hshort, memcpy_eq hread hroom, pure_bind]
  have hlength : (ntohsAt (copied byte (4 * ihl byte) udpHeaderBytes) 4).toNat = udpLength byte := by
    rw [ntohsAt_copied (by decide)]
    exact toNat_word byte _
  have htotal : (portless byte).totalLen.toNat = totalLength byte := toNat_word byte 2
  simp only [hlength, htotal]
  by_cases hreadable : UdpReadable byte len
  · obtain ⟨-, -, hmin, hpacket⟩ := id hreadable
    rw [if_pos hreadable, if_neg]
    · rw [ntohsAt_copied (by decide), ntohsAt_copied (by decide)]
      have hnarrow : narrow16 ((udpLength byte : Int) - (8 : Nat)) =
          UInt16.ofNat (udpLength byte - 8) := narrow16_sub hmin (word_lt byte _)
      unfold udpHeaderBytes
      rw [hnarrow]
      rfl
    · simp only [Bool.or_eq_true, decide_eq_true_eq]
      unfold udpHeaderBytes
      omega
  · rw [if_neg hreadable, if_pos]
    simp only [Bool.or_eq_true, decide_eq_true_eq]
    by_contra hnot
    refine hreadable ⟨hprotocol, ?_, ?_, ?_⟩ <;> unfold udpHeaderBytes at * <;> omega

/-- The transport header of a whole IP header. -/
theorem parseTransport_eq (hread : ∀ i < len, read i = pure (byte i))
    (hheader : 4 * ihl byte ≤ len) :
    (if (protocol byte == ipProtoTcp) = true then
      parseTcp read (portless byte) (4 * ihl byte) (len - 4 * ihl byte) >>= fun p => pure (some p)
    else if (protocol byte == ipProtoUdp) = true then
      parseUdp read (portless byte) (4 * ihl byte) (len - 4 * ihl byte) >>= fun p => pure (some p)
    else pure (some (portless byte))) =
      pure (some (if TcpReadable byte len then
        ported byte (totalLength byte - 4 * ihl byte - 4 * dataOffset byte)
          (byte (4 * ihl byte + 13))
      else if UdpReadable byte len then ported byte (udpLength byte - 8) 0
      else portless byte)) := by
  by_cases htcp : protocol byte = ipProtoTcp
  · have hnotUdp : ¬ UdpReadable byte len := by
      intro h
      rw [h.1] at htcp
      exact absurd htcp (by decide)
    rw [if_pos (beq_iff_eq.mpr htcp), parseTcp_eq hread hheader htcp, pure_bind, if_neg hnotUdp]
  · have hnotTcp : ¬ TcpReadable byte len := fun h => htcp h.1
    rw [if_neg (by simpa using htcp), if_neg hnotTcp]
    by_cases hudp : protocol byte = ipProtoUdp
    · rw [if_pos (beq_iff_eq.mpr hudp), parseUdp_eq hread hheader hudp, pure_bind]
    · have hnotUdp : ¬ UdpReadable byte len := fun h => hudp h.1
      rw [if_neg (by simpa using hudp), if_neg hnotUdp]

/-- **The parser reads inside the buffer only, and its result is that of the grammar.** -/
theorem parseWith_eq (hread : ∀ i < len, read i = pure (byte i)) :
    parseWith read len = pure (decode byte len) := by
  unfold parseWith decode
  by_cases hshort : len < ipHeaderBytes
  · have hnot : ¬ IsIpv4 byte len := fun h => absurd h.1 (Nat.not_le.mpr hshort)
    rw [if_pos hshort, if_neg hnot]
  rw [if_neg hshort, memcpy_eq hread (by omega : 0 + ipHeaderBytes ≤ len), pure_bind]
  have hfirst : List.getD (copied byte 0 ipHeaderBytes) 0 0 = byte 0 := getD_copied (by decide)
  have hprotocol : List.getD (copied byte 0 ipHeaderBytes) 9 0 = protocol byte :=
    getD_copied (by decide)
  simp only [hfirst, hprotocol, ntohsAt_copied (by decide : 2 + 1 < ipHeaderBytes),
    ntohsAt_copied (by decide : 6 + 1 < ipHeaderBytes),
    addressAt_copied (by decide : 12 + 3 < ipHeaderBytes),
    addressAt_copied (by decide : 16 + 3 < ipHeaderBytes), toNat_word, Nat.zero_add,
    bne_iff_ne, mask_eq, Nat.mul_comm _ 4]
  change (if version byte ≠ 4 then pure none
    else if 4 * ihl byte < 20 then pure none
    else if totalLength byte < 4 * ihl byte then pure (some (portless byte))
    else if fragmentOffset byte ≠ 0 then pure (some (portless byte))
    else if len < 4 * ihl byte then pure (some (portless byte))
    else if (protocol byte == ipProtoTcp) = true then
      parseTcp read (portless byte) (4 * ihl byte) (len - 4 * ihl byte) >>= fun p => pure (some p)
    else if (protocol byte == ipProtoUdp) = true then
      parseUdp read (portless byte) (4 * ihl byte) (len - 4 * ihl byte) >>= fun p => pure (some p)
    else pure (some (portless byte))) = _
  have hlen : 20 ≤ len := Nat.not_lt.mp hshort
  by_cases hipv4 : IsIpv4 byte len
  · obtain ⟨-, hversion, hihl⟩ := id hipv4
    rw [if_neg (not_not.mpr hversion), if_neg (by omega), if_pos hipv4]
    by_cases hfollows : PayloadFollows byte len
    · obtain ⟨hbuffer, hpacket, hfragment⟩ := id hfollows
      rw [if_neg (Nat.not_lt.mpr hpacket), if_neg (not_not.mpr hfragment),
        if_neg (Nat.not_lt.mpr hbuffer), if_pos hfollows]
      exact parseTransport_eq hread hbuffer
    · rw [if_neg hfollows]
      by_cases hpacket : totalLength byte < 4 * ihl byte
      · rw [if_pos hpacket]
      by_cases hfragment : fragmentOffset byte = 0
      · have hbuffer : len < 4 * ihl byte :=
          Nat.not_le.mp fun h => hfollows ⟨h, Nat.not_lt.mp hpacket, hfragment⟩
        rw [if_neg hpacket, if_neg (not_not.mpr hfragment), if_pos hbuffer]
      · rw [if_neg hpacket, if_pos hfragment]
  · rw [if_neg hipv4]
    by_cases hversion : version byte = 4
    · have hihl : 4 * ihl byte < 20 := by
        by_contra hnot
        exact hipv4 ⟨hlen, hversion, by omega⟩
      rw [if_neg (not_not.mpr hversion), if_pos hihl]
    · rw [if_pos hversion]

end Reading

/-! ## The grammar -/

/-- The bytes of a buffer. -/
def bytesOf (data : List UInt8) : Nat → UInt8 := fun i => data.getD i 0

theorem parse_eq (data : List UInt8) : parse data = decode (bytesOf data) data.length :=
  parseWith_eq (m := Id) fun _ _ => rfl

/-- A reader that fails outside the buffer does not fail. -/
theorem parseWith_getElem? (data : List UInt8) :
    parseWith (fun i => data[i]?) data.length = some (parse data) := by
  rw [parse_eq]
  apply parseWith_eq
  intro i hi
  change data[i]? = some (data.getD i 0)
  rw [List.getD, List.getElem?_eq_getElem hi]
  rfl

section Grammar

variable {byte : Nat → UInt8} {len : Nat} {p : ParsedPacket}

theorem decode_eq_none_iff :
    decode byte len = none ↔ len < 20 ∨ version byte ≠ 4 ∨ ihl byte < 5 := by
  have hnone : decode byte len = none ↔ ¬ IsIpv4 byte len := by
    unfold decode
    split <;> simp_all
  rw [hnone]
  unfold IsIpv4
  omega

/-- A payload length of sixteen bits is not narrowed. -/
theorem ported_payloadLen {n : Nat} {tcpFlags : UInt8} (h : n < 65536) :
    (ported byte n tcpFlags).payloadLen.toNat = n :=
  UInt16.toNat_ofNat_of_lt h

/-- A result is one of three packets. -/
theorem decode_cases (h : decode byte len = some p) :
    (PayloadFollows byte len ∧ TcpReadable byte len ∧
      p = ported byte (totalLength byte - 4 * ihl byte - 4 * dataOffset byte)
        (byte (4 * ihl byte + 13))) ∨
    (PayloadFollows byte len ∧ UdpReadable byte len ∧
      p = ported byte (udpLength byte - 8) 0) ∨
    (¬ (PayloadFollows byte len ∧ (TcpReadable byte len ∨ UdpReadable byte len)) ∧
      p = portless byte) := by
  unfold decode at h
  split at h
  · cases h
    by_cases hfollows : PayloadFollows byte len
    · rw [if_pos hfollows]
      by_cases htcp : TcpReadable byte len
      · exact Or.inl ⟨hfollows, htcp, if_pos htcp⟩
      by_cases hudp : UdpReadable byte len
      · exact Or.inr (Or.inl ⟨hfollows, hudp, by rw [if_neg htcp, if_pos hudp]⟩)
      · exact Or.inr (Or.inr ⟨by tauto, by rw [if_neg htcp, if_neg hudp]⟩)
    · exact Or.inr (Or.inr ⟨fun h => hfollows h.1, if_neg hfollows⟩)
  · cases h

end Grammar

/-- **What the parser accepts.** -/
theorem parse_grammar (data : List UInt8) :
    (parse data = none ↔
      data.length < 20 ∨ version (bytesOf data) ≠ 4 ∨ ihl (bytesOf data) < 5) ∧
    (∀ p, parse data = some p →
      p.tuple.srcIp = address (bytesOf data) 12 ∧
      p.tuple.dstIp = address (bytesOf data) 16 ∧
      p.tuple.protocol = protocol (bytesOf data) ∧
      p.totalLen.toNat = totalLength (bytesOf data) ∧
      (p.hasPorts = true ↔ PayloadFollows (bytesOf data) data.length ∧
        (TcpReadable (bytesOf data) data.length ∨ UdpReadable (bytesOf data) data.length)) ∧
      (p.hasPorts = true →
        p.tuple.srcPort.toNat = word (bytesOf data) (4 * ihl (bytesOf data)) ∧
        p.tuple.dstPort.toNat = word (bytesOf data) (4 * ihl (bytesOf data) + 2) ∧
        (p.tuple.protocol = ipProtoTcp →
          p.tcpFlags = bytesOf data (4 * ihl (bytesOf data) + 13) ∧
          p.payloadLen.toNat + 4 * ihl (bytesOf data) + 4 * dataOffset (bytesOf data) =
            totalLength (bytesOf data)) ∧
        (p.tuple.protocol = ipProtoUdp →
          p.tcpFlags = 0 ∧ p.payloadLen.toNat + 8 = udpLength (bytesOf data))) ∧
      (p.hasPorts = false →
        p.tuple.srcPort = 0 ∧ p.tuple.dstPort = 0 ∧ p.tcpFlags = 0 ∧ p.payloadLen = 0)) ∧
    parseWith (fun i => data[i]?) data.length = some (parse data) := by
  refine ⟨?_, ?_, parseWith_getElem? data⟩
  · rw [parse_eq]
    exact decode_eq_none_iff
  intro p hp
  rw [parse_eq] at hp
  obtain ⟨hfollows, htcp, rfl⟩ | ⟨hfollows, hudp, rfl⟩ | ⟨hnot, rfl⟩ := decode_cases hp
  · refine ⟨rfl, rfl, rfl, toNat_word _ 2, ?_, ?_, ?_⟩
    · exact iff_of_true rfl ⟨hfollows, Or.inl htcp⟩
    · intro _
      refine ⟨toNat_word _ _, toNat_word _ _, ?_, ?_⟩
      · intro _
        refine ⟨rfl, ?_⟩
        have hpacket := htcp.2.2.2.2
        have hsize : totalLength (bytesOf data) < 65536 := word_lt _ 2
        rw [ported_payloadLen (by omega)]
        omega
      · intro hprotocol
        have htcp' : protocol (bytesOf data) = ipProtoTcp := htcp.1
        exact absurd (htcp'.symm.trans hprotocol) (by decide)
    · intro hports
      cases hports
  · refine ⟨rfl, rfl, rfl, toNat_word _ 2, ?_, ?_, ?_⟩
    · exact iff_of_true rfl ⟨hfollows, Or.inr hudp⟩
    · intro _
      refine ⟨toNat_word _ _, toNat_word _ _, ?_, ?_⟩
      · intro hprotocol
        have hudp' : protocol (bytesOf data) = ipProtoUdp := hudp.1
        exact absurd (hudp'.symm.trans hprotocol) (by decide)
      · intro _
        have hmin := hudp.2.2.1
        refine ⟨rfl, ?_⟩
        have hsize : udpLength (bytesOf data) < 65536 := word_lt _ _
        rw [ported_payloadLen (by omega)]
        omega
    · intro hports
      cases hports
  · refine ⟨rfl, rfl, rfl, toNat_word _ 2, ?_, ?_, ?_⟩
    · exact iff_of_false Bool.false_ne_true hnot
    · intro hports
      cases hports
    · intro _
      exact ⟨rfl, rfl, rfl, rfl⟩

/-- Only TCP packets have flags. -/
theorem parse_flags {data : List UInt8} {p : ParsedPacket} (hp : parse data = some p)
    (hprotocol : p.tuple.protocol ≠ ipProtoTcp) : p.tcpFlags = 0 := by
  rw [parse_eq] at hp
  obtain ⟨-, htcp, rfl⟩ | ⟨-, -, rfl⟩ | ⟨-, rfl⟩ := decode_cases hp
  · exact absurd htcp.1 hprotocol
  · rfl
  · rfl

/-! ## The copied bytes -/

section Copy

variable {byte byte' : Nat → UInt8} {len len' : Nat}

/-- No header field lies behind the two longest headers, and the length of the buffer matters up
to there only. -/
theorem decode_congr (hbyte : ∀ i < 120, byte i = byte' i) (hlen : 120 ≤ len)
    (hlen' : 120 ≤ len') : decode byte len = decode byte' len' := by
  have hword : ∀ i < 119, word byte i = word byte' i := by
    intro i hi
    rw [word, hbyte i (by omega), hbyte (i + 1) (by omega), word]
  have haddress : ∀ i < 117, address byte i = address byte' i := by
    intro i hi
    rw [address, hbyte i (by omega), hbyte (i + 1) (by omega), hbyte (i + 2) (by omega),
      hbyte (i + 3) (by omega), address]
  have hversion : version byte = version byte' := by rw [version, hbyte 0 (by omega), version]
  have hihl : ihl byte = ihl byte' := by rw [ihl, hbyte 0 (by omega), ihl]
  have hheader : 4 * ihl byte' ≤ 60 := by
    unfold ihl
    omega
  have htotal : totalLength byte = totalLength byte' := hword 2 (by omega)
  have hfragment : fragmentOffset byte = fragmentOffset byte' := by
    rw [fragmentOffset, hword 6 (by omega), fragmentOffset]
  have hprotocol : protocol byte = protocol byte' := hbyte 9 (by omega)
  have hoffset : dataOffset byte = dataOffset byte' := by
    rw [dataOffset, hihl, hbyte _ (by omega), dataOffset]
  have hdataOffset : 4 * dataOffset byte' ≤ 60 := by
    have hflags := (byte' (4 * ihl byte' + 12)).toNat_lt
    unfold dataOffset
    omega
  have hudpLength : udpLength byte = udpLength byte' := by
    rw [udpLength, hihl, hword _ (by omega), udpLength]
  have hported : ∀ n flags, ported byte n flags = ported byte' n flags := by
    intro n flags
    rw [ported, haddress 12 (by omega), haddress 16 (by omega), hihl, hword _ (by omega),
      hword _ (by omega), hprotocol, htotal, ported]
  have hportless : portless byte = portless byte' := by
    rw [portless, haddress 12 (by omega), haddress 16 (by omega), hprotocol, htotal, portless]
  have hipv4 : IsIpv4 byte len ↔ IsIpv4 byte' len' := by
    unfold IsIpv4
    rw [hversion, hihl]
    omega
  have hfollows : PayloadFollows byte len ↔ PayloadFollows byte' len' := by
    unfold PayloadFollows
    rw [hihl, htotal, hfragment]
    omega
  have htcp : TcpReadable byte len ↔ TcpReadable byte' len' := by
    unfold TcpReadable
    rw [hihl, htotal, hprotocol, hoffset]
    apply and_congr_right
    intro _
    omega
  have hudp : UdpReadable byte len ↔ UdpReadable byte' len' := by
    unfold UdpReadable
    rw [hihl, htotal, hprotocol, hudpLength]
    apply and_congr_right
    intro _
    omega
  unfold decode
  simp only [hipv4, hfollows, htcp, hudp, hported, hportless, hihl, htotal, hoffset, hudpLength,
    hbyte (4 * ihl byte' + 13) (by omega)]

end Copy

/-- `MAX_COPY_BYTES`: how much of a queued packet is copied. -/
def maxCopyBytes : Nat := 128

/-- **Copying only the start of a packet loses nothing.** -/
theorem parse_take (data : List UInt8) :
    parse (data.take (min maxCopyBytes data.length)) = parse data := by
  by_cases hshort : data.length ≤ maxCopyBytes
  · rw [Nat.min_eq_right hshort, List.take_length]
  have hmin : min maxCopyBytes data.length = maxCopyBytes :=
    Nat.min_eq_left (Nat.le_of_not_le hshort)
  rw [parse_eq, parse_eq, hmin]
  unfold maxCopyBytes at *
  apply decode_congr
  · intro i hi
    unfold bytesOf List.getD
    rw [List.getElem?_take_of_lt (by omega)]
  · rw [List.length_take]
    omega
  · omega

end InlineIps.PacketParser
