import StbEbpf.Probe.FrameLayout

/-!
Ethernet frames as they are put together: an optional 802.1Q tag, an IPv4 header with options or an IPv6 header without
extension headers, and a TCP, UDP or ICMP header with its payload.
-/

namespace StbEbpf.Probe
open CText Access

def be16Bytes (word : UInt16) : Bytes := [(word >>> 8).toUInt8, word.toUInt8]

def be32Bytes (word : UInt32) : Bytes :=
  [(word >>> 24).toUInt8, (word >>> 16).toUInt8, (word >>> 8).toUInt8, word.toUInt8]

/-- `vlan` is the tag control information of an 802.1Q tag. -/
structure Link where
  destination : Vector UInt8 6
  source : Vector UInt8 6
  vlan : Option UInt16

def Link.tag (link : Link) : Bytes :=
  match link.vlan with
  | none => []
  | some tci => be16Bytes ETH_P_8021Q ++ be16Bytes tci

def Link.bytes (link : Link) (etherType : UInt16) : Bytes :=
  link.destination.toList ++ link.source.toList ++ (link.tag ++ be16Bytes etherType)

def Link.length (link : Link) : Nat := if link.vlan.isSome then 18 else 14

structure Ipv4Addr where
  a : UInt8
  b : UInt8
  c : UInt8
  d : UInt8
  deriving DecidableEq, Repr

def Ipv4Addr.bytes (addr : Ipv4Addr) : Bytes := [addr.a, addr.b, addr.c, addr.d]

/-- The word that lies in memory as the bytes of the address. -/
def Ipv4Addr.word (addr : Ipv4Addr) : UInt32 :=
  addr.a.toUInt32 ||| addr.b.toUInt32 <<< 8 ||| addr.c.toUInt32 <<< 16 ||| addr.d.toUInt32 <<< 24

/-- Options come in words of four bytes, at most ten of them. -/
structure Ipv4Header where
  tos : UInt8
  totalLength : UInt16
  identification : UInt16
  flags : Fin 8
  ttl : UInt8
  checksum : UInt16
  src : Ipv4Addr
  dst : Ipv4Addr
  options : List (Vector UInt8 4)
  fits : options.length ≤ 10

def Ipv4Header.ihl (header : Ipv4Header) : Nat := 5 + header.options.length

def Ipv4Header.bytes (header : Ipv4Header) (fragmentOffset : Fin 8192) (protocol : UInt8) : Bytes :=
  [UInt8.ofNat (4 * 16 + header.ihl), header.tos] ++ be16Bytes header.totalLength ++
    be16Bytes header.identification ++ be16Bytes (UInt16.ofNat (header.flags * 8192 + fragmentOffset)) ++
    [header.ttl, protocol] ++ be16Bytes header.checksum ++ header.src.bytes ++ header.dst.bytes ++
    header.options.flatMap Vector.toList

/-- `first` holds the version, traffic class and flow label. -/
structure Ipv6Header where
  first : Vector UInt8 4
  payloadLength : UInt16
  hopLimit : UInt8
  src : Vector UInt8 16
  dst : Vector UInt8 16

def Ipv6Header.bytes (header : Ipv6Header) (nextHeader : UInt8) : Bytes :=
  header.first.toList ++ (be16Bytes header.payloadLength ++ [nextHeader, header.hopLimit] ++ header.src.toList ++
    header.dst.toList)

/-- `offset` holds the data offset and the reserved bits; `options` is whatever stands before the data. -/
structure TcpHeader where
  srcPort : UInt16
  dstPort : UInt16
  seq : UInt32
  ack : UInt32
  offset : UInt8
  flags : UInt8
  window : UInt16
  checksum : UInt16
  urgent : UInt16
  options : Bytes

def TcpHeader.bytes (header : TcpHeader) : Bytes :=
  be16Bytes header.srcPort ++ be16Bytes header.dstPort ++ be32Bytes header.seq ++ be32Bytes header.ack ++
    [header.offset, header.flags] ++ be16Bytes header.window ++ be16Bytes header.checksum ++
    be16Bytes header.urgent ++ header.options

structure UdpHeader where
  srcPort : UInt16
  dstPort : UInt16
  length : UInt16
  checksum : UInt16

def UdpHeader.bytes (header : UdpHeader) : Bytes :=
  be16Bytes header.srcPort ++ be16Bytes header.dstPort ++ be16Bytes header.length ++ be16Bytes header.checksum

structure IcmpHeader where
  type : UInt8
  code : UInt8
  checksum : UInt16
  rest : UInt32

def IcmpHeader.bytes (header : IcmpHeader) : Bytes :=
  [header.type, header.code] ++ be16Bytes header.checksum ++ be32Bytes header.rest

inductive Segment where
  | tcp (header : TcpHeader)
  | udp (header : UdpHeader)

namespace Segment

def protocol : Segment → UInt8
  | tcp _ => IPPROTO_TCP
  | udp _ => IPPROTO_UDP

def bytes : Segment → Bytes
  | tcp header => header.bytes
  | udp header => header.bytes

def srcPort : Segment → UInt16
  | tcp header => header.srcPort
  | udp header => header.srcPort

def dstPort : Segment → UInt16
  | tcp header => header.dstPort
  | udp header => header.dstPort

/-- The flags byte of a TCP header. -/
def flags : Segment → UInt8
  | tcp header => header.flags
  | udp _ => 0

end Segment

inductive Transport where
  | segment (segment : Segment)
  | icmp (header : IcmpHeader)

namespace Transport

def protocol : Transport → UInt8
  | segment s => s.protocol
  | icmp _ => IPPROTO_ICMP

def bytes : Transport → Bytes
  | segment s => s.bytes
  | icmp header => header.bytes

def srcPort : Transport → UInt16
  | segment s => s.srcPort
  | icmp _ => 0

/-- An ICMP message is known by its type. -/
def dstPort : Transport → UInt16
  | segment s => s.dstPort
  | icmp header => header.type.toUInt16

def flags : Transport → UInt8
  | segment s => s.flags
  | icmp _ => 0

end Transport

def ipv4Frame (link : Link) (header : Ipv4Header) (fragmentOffset : Fin 8192) (transport : Transport)
    (payload : Bytes) : Bytes :=
  link.bytes ETH_P_IP ++ (header.bytes fragmentOffset transport.protocol ++ (transport.bytes ++ payload))

/-- The offset of a packet that is not a fragment. -/
theorem zero_offset_lt : 0 < 8192 := by decide

def ipv6Frame (link : Link) (header : Ipv6Header) (segment : Segment) (payload : Bytes) : Bytes :=
  link.bytes ETH_P_IPV6 ++ (header.bytes segment.protocol ++ (segment.bytes ++ payload))

/-! ### Reading what was put together -/

theorem field_drop (p : Bytes) (offset i : Nat) : field (p.drop offset) i = field p (offset + i) := by
  unfold field
  rw [List.getD_eq_getElem?_getD, List.getD_eq_getElem?_getD, List.getElem?_drop]

theorem fieldBe16_drop (p : Bytes) (offset i : Nat) : fieldBe16 (p.drop offset) i = fieldBe16 p (offset + i) := by
  unfold fieldBe16
  rw [field_drop, field_drop, Nat.add_assoc]

theorem fieldLe32_drop (p : Bytes) (offset i : Nat) : fieldLe32 (p.drop offset) i = fieldLe32 p (offset + i) := by
  unfold fieldLe32
  simp only [field_drop, Nat.add_assoc]

theorem be16_toNat (high low : UInt8) : (be16 high low).toNat = high.toNat * 256 + low.toNat := by
  have bound := high.toNat_lt
  unfold be16
  rw [UInt16.toNat_or, UInt16.toNat_shiftLeft, UInt8.toNat_toUInt16, UInt8.toNat_toUInt16]
  have shifted : high.toNat <<< ((8 : UInt16).toNat % 16) % 2 ^ 16 = high.toNat <<< 8 := by
    rw [Nat.mod_eq_of_lt]
    · rfl
    · show high.toNat <<< 8 < 2 ^ 16
      rw [Nat.shiftLeft_eq]
      omega
  rw [shifted, ← Nat.shiftLeft_add_eq_or_of_lt low.toNat_lt, Nat.shiftLeft_eq]

theorem be16_be16Bytes (word : UInt16) : be16 (word >>> 8).toUInt8 word.toUInt8 = word := by
  apply UInt16.toNat_inj.mp
  have bound := word.toNat_lt
  have high : (word >>> 8).toUInt8.toNat = word.toNat / 256 % 256 := by
    rw [UInt16.toNat_toUInt8, UInt16.toNat_shiftRight]
    show word.toNat >>> 8 % 2 ^ 8 = _
    rw [Nat.shiftRight_eq_div_pow]
  rw [be16_toNat, high, UInt16.toNat_toUInt8]
  omega

theorem Link.bytes_length (link : Link) (type : UInt16) : (link.bytes type).length = link.length := by
  obtain ⟨destination, source, vlan⟩ := link
  cases vlan with
  | none => simp [Link.bytes, Link.tag, Link.length, be16Bytes]
  | some tci => simp [Link.bytes, Link.tag, Link.length, be16Bytes]

section
variable (link : Link) {type : UInt16} (rest : Bytes)

theorem link_drop : (link.bytes type ++ rest).drop link.length = rest :=
  List.drop_left' (link.bytes_length type)

theorem link_after_addresses : (link.bytes type ++ rest).drop 12 = link.tag ++ (be16Bytes type ++ rest) := by
  have addresses : (link.destination.toList ++ link.source.toList).length = 12 := by simp
  unfold Link.bytes
  rw [List.append_assoc, List.drop_left' addresses, List.append_assoc]

variable (plain : type ≠ ETH_P_8021Q)
include plain

theorem link_tagged : tagged (link.bytes type ++ rest) = link.vlan.isSome := by
  have read := fieldBe16_drop (link.bytes type ++ rest) 12 0
  rw [link_after_addresses] at read
  unfold tagged
  rw [← read]
  unfold Link.tag
  cases link.vlan with
  | none =>
    have same : fieldBe16 ([] ++ (be16Bytes type ++ rest)) 0 = type := be16_be16Bytes type
    exact decide_eq_false fun tag => plain (same.symm.trans tag)
  | some tci => exact decide_eq_true (be16_be16Bytes ETH_P_8021Q)

theorem link_linkLength : linkLength (link.bytes type ++ rest) = link.length := by
  unfold linkLength Link.length
  rw [link_tagged link rest plain]

theorem link_etherType : etherType (link.bytes type ++ rest) = type := by
  have read (i : Nat) := fieldBe16_drop (link.bytes type ++ rest) 12 i
  rw [link_after_addresses] at read
  unfold etherType
  rw [link_tagged link rest plain]
  unfold Link.tag at read
  cases vlan : link.vlan with
  | none =>
    rw [vlan] at read
    exact (read 0).symm.trans (be16_be16Bytes type)
  | some tci =>
    rw [vlan] at read
    exact (read 4).symm.trans (be16_be16Bytes type)

end

theorem words_length (words : List (Vector UInt8 4)) : (words.flatMap Vector.toList).length = 4 * words.length := by
  induction words with
  | nil => rfl
  | cons word rest ih =>
    rw [List.flatMap_cons, List.length_append, ih, Vector.length_toList, List.length_cons]
    omega

theorem Ipv4Header.bytes_length (header : Ipv4Header) (fragmentOffset : Fin 8192) (protocol : UInt8) :
    (header.bytes fragmentOffset protocol).length = header.ihl * 4 := by
  simp only [Ipv4Header.bytes, Ipv4Header.ihl, be16Bytes, Ipv4Addr.bytes, List.length_append, List.length_cons,
    List.length_nil, words_length]
  omega

theorem Ipv6Header.bytes_length (header : Ipv6Header) (nextHeader : UInt8) :
    (header.bytes nextHeader).length = 40 := by
  simp [Ipv6Header.bytes, be16Bytes]

theorem Ipv6Header.next_read (header : Ipv6Header) (nextHeader : UInt8) (rest : Bytes) :
    field (header.bytes nextHeader ++ rest) 6 = nextHeader := by
  unfold Ipv6Header.bytes
  rw [← field_drop _ 4 2, List.append_assoc, List.drop_left' header.first.length_toList]
  rfl

/-! ### What the parser makes of it -/

/-- The length of the header is in the low half of its first byte. -/
theorem Ipv4Header.ihl_read (header : Ipv4Header) :
    (UInt8.ofNat (4 * 16 + header.ihl) &&& 0x0F).toNat = header.ihl := by
  have small := header.fits
  rw [UInt8.toNat_and, UInt8.toNat_ofNat']
  show (4 * 16 + header.ihl) % 2 ^ 8 &&& 2 ^ 4 - 1 = header.ihl
  rw [Nat.and_two_pow_sub_one_eq_mod]
  unfold Ipv4Header.ihl
  omega

theorem Ipv4Header.fragment_read (header : Ipv4Header) (fragmentOffset : Fin 8192) :
    UInt16.ofNat (header.flags * 8192 + fragmentOffset) &&& 0x1FFF ≠ 0 ↔ fragmentOffset ≠ 0 := by
  have value : (UInt16.ofNat (header.flags * 8192 + fragmentOffset) &&& 0x1FFF).toNat = fragmentOffset := by
    rw [UInt16.toNat_and, UInt16.toNat_ofNat']
    show (header.flags * 8192 + fragmentOffset.val) % 2 ^ 16 &&& 2 ^ 13 - 1 = fragmentOffset
    rw [Nat.and_two_pow_sub_one_eq_mod]
    omega
  rw [← UInt16.toNat_inj.ne, value]
  exact Fin.val_ne_zero_iff

theorem Segment.srcPort_read (segment : Segment) (payload : Bytes) :
    fieldBe16 (segment.bytes ++ payload) 0 = segment.srcPort := by
  cases segment with
  | tcp header => exact be16_be16Bytes header.srcPort
  | udp header => exact be16_be16Bytes header.srcPort

theorem Segment.dstPort_read (segment : Segment) (payload : Bytes) :
    fieldBe16 (segment.bytes ++ payload) 2 = segment.dstPort := by
  cases segment with
  | tcp header => exact be16_be16Bytes header.dstPort
  | udp header => exact be16_be16Bytes header.dstPort

section
variable {frame payload : Bytes} {offset : Nat} {evt : PktEvent}

theorem length_of_drop {bytes : Bytes} (here : frame.drop offset = bytes) (some_ : 0 < bytes.length) :
    frame.length = offset + bytes.length := by
  have length := congrArg List.length here
  rw [List.length_drop] at length
  omega

theorem segment_event {segment : Segment} (here : frame.drop offset = segment.bytes ++ payload)
    (protocol : evt.protocol = segment.protocol) (clean : evt.tcpFlags = 0) :
    transportEvent frame offset evt = some { evt with
      srcPort := segment.srcPort, dstPort := segment.dstPort
      tcpFlags := segment.flags &&& keptFlags evt.ipVersion } := by
  have src : fieldBe16 frame offset = segment.srcPort := by
    rw [← segment.srcPort_read payload, ← here, fieldBe16_drop, Nat.add_zero]
  have dst : fieldBe16 frame (offset + 2) = segment.dstPort := by
    rw [← segment.dstPort_read payload, ← here, fieldBe16_drop]
  cases segment with
  | tcp header =>
    have length := length_of_drop here (by simp [Segment.bytes, TcpHeader.bytes, be16Bytes])
    simp only [Segment.bytes, TcpHeader.bytes, be16Bytes, be32Bytes, List.length_append, List.length_cons] at length
    have flags : field frame (offset + 13) = header.flags := by
      rw [← field_drop, here]
      rfl
    rw [transportEvent_tcp protocol, if_neg (by omega), src, dst]
    unfold tcpFlagsAt
    rw [flags]
    rfl
  | udp header =>
    have length := length_of_drop here (by simp [Segment.bytes, UdpHeader.bytes, be16Bytes])
    simp only [Segment.bytes, UdpHeader.bytes, be16Bytes, List.length_append, List.length_cons] at length
    rw [transportEvent_udp protocol, if_neg (by omega), src, dst, clean]
    simp [Segment.flags]

theorem icmp_event {header : IcmpHeader} (here : frame.drop offset = header.bytes ++ payload)
    (protocol : evt.protocol = IPPROTO_ICMP) (ipv4 : evt.ipVersion = 4) :
    transportEvent frame offset evt = some { evt with srcPort := 0, dstPort := header.type.toUInt16 } := by
  have length := length_of_drop here (by simp [IcmpHeader.bytes, be16Bytes])
  simp only [IcmpHeader.bytes, be16Bytes, be32Bytes, List.length_append, List.length_cons] at length
  have type : field frame offset = header.type := by
    rw [← Nat.add_zero offset, ← field_drop, here]
    rfl
  rw [transportEvent_icmp protocol ipv4, if_neg (by omega), type]

end

section
variable (link : Link) (header : Ipv4Header) (fragmentOffset : Fin 8192) (protocol : UInt8) (rest : Bytes)

theorem ipv4_drop :
    (link.bytes ETH_P_IP ++ (header.bytes fragmentOffset protocol ++ rest)).drop (link.length + header.ihl * 4) =
      rest := by
  rw [← List.drop_drop, link_drop, List.drop_left' (header.bytes_length fragmentOffset protocol)]

theorem ipv4_transportOffset :
    transportOffset (link.bytes ETH_P_IP ++ (header.bytes fragmentOffset protocol ++ rest)) 4 =
      link.length + header.ihl * 4 := by
  have first : field (link.bytes ETH_P_IP ++ (header.bytes fragmentOffset protocol ++ rest)) link.length =
      UInt8.ofNat (4 * 16 + header.ihl) := by
    rw [← Nat.add_zero link.length, ← field_drop, link_drop]
    rfl
  unfold transportOffset ipv4Length
  rw [link_linkLength link _ (by decide), first, header.ihl_read]
  rfl

/-- The parser takes an unfragmented frame by its transport header and no other. -/
theorem ipv4_parsed (evt : PktEvent) :
    parsedFrame (link.bytes ETH_P_IP ++ (header.bytes fragmentOffset protocol ++ rest)) evt =
      if fragmentOffset = 0 then
        transportEvent (link.bytes ETH_P_IP ++ (header.bytes fragmentOffset protocol ++ rest))
          (link.length + header.ihl * 4)
          { evt with srcIp := header.src.word, dstIp := header.dst.word, protocol, ipVersion := 4 }
      else none := by
  generalize shape : link.bytes ETH_P_IP ++ (header.bytes fragmentOffset protocol ++ rest) = frame
  have length : linkLength frame = link.length := by rw [← shape, link_linkLength link _ (by decide)]
  have type : etherType frame = ETH_P_IP := by rw [← shape, link_etherType link _ (by decide)]
  have here : frame.drop link.length = header.bytes fragmentOffset protocol ++ rest := by rw [← shape, link_drop]
  have enough : link.length + 20 ≤ frame.length := by
    have whole := congrArg List.length shape
    rw [List.length_append, List.length_append, link.bytes_length, header.bytes_length] at whole
    unfold Ipv4Header.ihl at whole
    omega
  have fragment : fieldBe16 frame (link.length + 6) = UInt16.ofNat (header.flags * 8192 + fragmentOffset) := by
    rw [← fieldBe16_drop, here]
    exact be16_be16Bytes _
  have event : ipv4Event frame link.length evt =
      { evt with srcIp := header.src.word, dstIp := header.dst.word, protocol, ipVersion := 4 } := by
    unfold ipv4Event
    rw [← fieldLe32_drop, ← fieldLe32_drop, ← field_drop, here]
    rfl
  have offset : transportOffset frame 4 = link.length + header.ihl * 4 := by rw [← shape, ipv4_transportOffset]
  unfold parsedFrame
  rw [length, if_neg (by omega), if_pos type, if_neg (by omega), fragment, event, offset]
  by_cases none_ : fragmentOffset = 0
  · rw [if_neg fun cut => (header.fragment_read fragmentOffset).mp cut none_, if_pos none_]
  · rw [if_pos ((header.fragment_read fragmentOffset).mpr none_), if_neg none_]

end

/-- Parsing undoes the encoding of an IPv4 frame, and of a later fragment it keeps nothing. -/
theorem packetParseRaw_undoes_encoding (link : Link) (header : Ipv4Header) (fragmentOffset : Fin 8192)
    (transport : Transport) (payload : Bytes) (timestampNs : UInt64) (pktLen : UInt16) :
    packetParseRaw (ipv4Frame link header fragmentOffset transport payload) { timestampNs, pktLen } =
      .ok (if fragmentOffset = 0 then
        some { timestampNs, pktLen
               srcIp := header.src.word, dstIp := header.dst.word
               srcPort := transport.srcPort, dstPort := transport.dstPort
               protocol := transport.protocol, ipVersion := 4
               tcpFlags := transport.flags &&&
                 (TCP_FLAG_SYN ||| TCP_FLAG_ACK ||| TCP_FLAG_FIN ||| TCP_FLAG_RST ||| TCP_FLAG_PSH ||| TCP_FLAG_URG) }
      else none) := by
  have here := ipv4_drop link header fragmentOffset transport.protocol (transport.bytes ++ payload)
  rw [packetParseRaw_reads]
  unfold ipv4Frame
  rw [ipv4_parsed]
  by_cases whole : fragmentOffset = 0
  · rw [if_pos whole, if_pos whole]
    cases transport with
    | segment segment =>
      rw [segment_event here rfl rfl]
      rfl
    | icmp icmp =>
      rw [icmp_event here rfl rfl]
      simp [Transport.srcPort, Transport.dstPort, Transport.flags]
  · rw [if_neg whole, if_neg whole]

/-! ### The two versions -/

theorem ipv4_segment_parsed (link : Link) (header : Ipv4Header) (segment : Segment) (payload : Bytes) (evt : PktEvent)
    (clean : evt.tcpFlags = 0) :
    ∃ pkt, packetParseRaw (ipv4Frame link header 0 (.segment segment) payload) evt = .ok (some pkt) ∧
      pkt.srcPort = segment.srcPort ∧ pkt.dstPort = segment.dstPort ∧ pkt.protocol = segment.protocol ∧
      pkt.tcpFlags = segment.flags &&& keptFlags 4 := by
  have here := ipv4_drop link header 0 segment.protocol (segment.bytes ++ payload)
  rw [packetParseRaw_reads]
  unfold ipv4Frame
  rw [ipv4_parsed, if_pos rfl]
  exact ⟨_, congrArg Except.ok (segment_event here rfl clean), rfl, rfl, rfl, rfl⟩

theorem ipv6_segment_parsed (link : Link) (header : Ipv6Header) (segment : Segment) (payload : Bytes) (evt : PktEvent)
    (clean : evt.tcpFlags = 0) :
    ∃ pkt, packetParseRaw (ipv6Frame link header segment payload) evt = .ok (some pkt) ∧
      pkt.srcPort = segment.srcPort ∧ pkt.dstPort = segment.dstPort ∧ pkt.protocol = segment.protocol ∧
      pkt.tcpFlags = segment.flags &&& keptFlags 6 := by
  generalize shape : ipv6Frame link header segment payload = frame
  unfold ipv6Frame at shape
  have length : linkLength frame = link.length := by rw [← shape, link_linkLength link _ (by decide)]
  have type : etherType frame = ETH_P_IPV6 := by rw [← shape, link_etherType link _ (by decide)]
  have ip : frame.drop link.length = header.bytes segment.protocol ++ (segment.bytes ++ payload) := by
    rw [← shape, link_drop]
  have here : frame.drop (link.length + 40) = segment.bytes ++ payload := by
    rw [← List.drop_drop, ip, List.drop_left' (header.bytes_length segment.protocol)]
  have enough : link.length + 40 ≤ frame.length := by
    have whole := congrArg List.length shape
    rw [List.length_append, List.length_append, link.bytes_length, header.bytes_length] at whole
    omega
  have next : field frame (link.length + 6) = segment.protocol := by
    rw [← field_drop, ip, header.next_read]
  rw [packetParseRaw_reads]
  unfold parsedFrame
  rw [length, if_neg (by omega), if_neg (by rw [type]; decide), if_pos type, if_neg (by omega)]
  unfold transportOffset
  rw [length]
  exact ⟨_, congrArg Except.ok (segment_event here next clean), rfl, rfl, next, rfl⟩

/-- Both frames are accepted, and with the same transport layer. -/
def SameTransport (left right : Checked (Option PktEvent)) : Prop :=
  ∃ one two, left = .ok (some one) ∧ right = .ok (some two) ∧ one.srcPort = two.srcPort ∧ one.dstPort = two.dstPort ∧
    one.protocol = two.protocol ∧ one.tcpFlags = two.tcpFlags

theorem and_or_left (flags left right : UInt8) :
    flags &&& (left ||| right) = (flags &&& left) ||| (flags &&& right) :=
  UInt8.toBitVec_inj.mp BitVec.and_or_distrib_left

/-- A wider mask keeps nothing more exactly when the flags of the difference are clear. -/
theorem mask_same_iff {flags narrow wide : UInt8} (apart : wide &&& narrow = 0) :
    flags &&& (narrow ||| wide) = flags &&& narrow ↔ flags &&& wide = 0 := by
  constructor
  · intro same
    calc flags &&& wide = wide &&& (flags &&& (narrow ||| wide)) := by
          rw [and_or_left, and_or_left, ← UInt8.and_assoc wide, UInt8.and_comm wide flags, UInt8.and_assoc flags, apart,
            UInt8.and_zero, UInt8.zero_or, ← UInt8.and_assoc wide, UInt8.and_comm wide flags, UInt8.and_assoc flags,
            UInt8.and_self]
      _ = wide &&& (flags &&& narrow) := by rw [same]
      _ = 0 := by
          rw [← UInt8.and_assoc, UInt8.and_comm wide flags, UInt8.and_assoc, apart, UInt8.and_zero]
  · intro clear
    rw [and_or_left, clear, UInt8.or_zero]

/-- Carrying a segment in IPv4 or in IPv6 makes no difference to the parser exactly when the segment has neither
`PSH` nor `URG`. -/
theorem same_transport_iff (link4 link6 : Link) (header4 : Ipv4Header) (header6 : Ipv6Header) (segment : Segment)
    (payload : Bytes) (timestamp4 timestamp6 : UInt64) (pktLen4 pktLen6 : UInt16) :
    SameTransport
        (packetParseRaw (ipv4Frame link4 header4 0 (.segment segment) payload)
          { timestampNs := timestamp4, pktLen := pktLen4 })
        (packetParseRaw (ipv6Frame link6 header6 segment payload) { timestampNs := timestamp6, pktLen := pktLen6 }) ↔
      segment.flags &&& (TCP_FLAG_PSH ||| TCP_FLAG_URG) = 0 := by
  obtain ⟨one, left, src4, dst4, protocol4, flags4⟩ := ipv4_segment_parsed link4 header4 segment payload
    { timestampNs := timestamp4, pktLen := pktLen4 } rfl
  obtain ⟨two, right, src6, dst6, protocol6, flags6⟩ := ipv6_segment_parsed link6 header6 segment payload
    { timestampNs := timestamp6, pktLen := pktLen6 } rfl
  have wider : keptFlags 4 = keptFlags 6 ||| (TCP_FLAG_PSH ||| TCP_FLAG_URG) := by decide
  have apart : (TCP_FLAG_PSH ||| TCP_FLAG_URG) &&& keptFlags 6 = 0 := by decide
  rw [← mask_same_iff apart, ← wider, ← flags4, ← flags6, left, right]
  constructor
  · rintro ⟨first, second, sameOne, sameTwo, -, -, -, same⟩
    cases sameOne
    cases sameTwo
    exact same
  · intro same
    exact ⟨one, two, rfl, rfl, src4.trans src6.symm, dst4.trans dst6.symm, protocol4.trans protocol6.symm, same⟩

def sampleLink : Link := ⟨#v[2, 0, 0, 0, 0, 1], #v[2, 0, 0, 0, 0, 2], none⟩

def sampleIpv4 : Ipv4Header :=
  ⟨0, 40, 1, 2, 64, 0, ⟨192, 168, 1, 10⟩, ⟨93, 184, 216, 34⟩, [], Nat.zero_le _⟩

def sampleIpv6 : Ipv6Header where
  first := #v[0x60, 0, 0, 0]
  payloadLength := 20
  hopLimit := 64
  src := #v[0x20, 1, 0xd, 0xb8, 0, 0, 0, 0, 0, 0, 0, 0, 0, 0, 0, 1]
  dst := #v[0x20, 1, 0xd, 0xb8, 0, 0, 0, 0, 0, 0, 0, 0, 0, 0, 0, 2]

-- The segment carries `PSH` and `ACK`.
theorem pushed_segment_differs :
    ¬ SameTransport
      (packetParseRaw (ipv4Frame sampleLink sampleIpv4 0
        (.segment (.tcp ⟨40000, 80, 1, 1, 0x50, 0x18, 512, 0, 0, []⟩)) []) {})
      (packetParseRaw (ipv6Frame sampleLink sampleIpv6 (.tcp ⟨40000, 80, 1, 1, 0x50, 0x18, 512, 0, 0, []⟩) []) {}) := by
  obtain ⟨one, left, -, -, -, flags4⟩ := ipv4_segment_parsed sampleLink sampleIpv4
    (.tcp ⟨40000, 80, 1, 1, 0x50, 0x18, 512, 0, 0, []⟩) [] {} rfl
  obtain ⟨two, right, -, -, -, flags6⟩ := ipv6_segment_parsed sampleLink sampleIpv6
    (.tcp ⟨40000, 80, 1, 1, 0x50, 0x18, 512, 0, 0, []⟩) [] {} rfl
  rw [left, right]
  rintro ⟨first, second, sameOne, sameTwo, -, -, -, same⟩
  cases sameOne
  cases sameTwo
  rw [flags4, flags6] at same
  exact absurd same (by decide)

end StbEbpf.Probe
