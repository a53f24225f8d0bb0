import StbEbpf.Probe.HeaderOffsets

/-!
Fields of the IPv4 header that neither the parser nor `main.c` looks at: the version, the lower bound of the header
length, and the total length.
-/

namespace StbEbpf.Probe
open CText Access

/-! ### The payload length of a segment -/

/-- An unfragmented TCP segment in IPv4, with whatever the link adds behind the packet. -/
structure TcpFrame where
  link : Link
  ip : Ipv4Header
  tcp : TcpHeader
  payload : Bytes
  padding : Bytes
  unfragmented : ip.flags.val % 2 = 0
  dataOffset : Probe.dataOffset tcp.offset = 20 + tcp.options.length
  totalLength : ip.totalLength.toNat = ip.ihl * 4 + Probe.dataOffset tcp.offset + payload.length

namespace TcpFrame

def bytes (f : TcpFrame) : Bytes := ipv4Frame f.link f.ip ⟨0, zero_offset_lt⟩ (.segment (.tcp f.tcp)) (f.payload ++ f.padding)

theorem drop_headers (f : TcpFrame) :
    f.bytes.drop (f.link.length + f.ip.ihl * 4) = f.tcp.bytes ++ (f.payload ++ f.padding) :=
  ipv4_drop ..

theorem bytes_length (f : TcpFrame) :
    f.bytes.length = f.link.length + f.ip.ihl * 4 + Probe.dataOffset f.tcp.offset + f.payload.length + f.padding.length := by
  have offset := f.dataOffset
  unfold bytes ipv4Frame
  simp only [List.length_append, Link.bytes_length, Ipv4Header.bytes_length, Transport.bytes, Segment.bytes,
    TcpHeader.bytes, be16Bytes, be32Bytes, List.length_cons, List.length_nil]
  omega

end TcpFrame

/-- The length comes from the end of the frame, whatever stands there. -/
theorem extractTcpSeqNum_payloadLen {frame : Bytes} {pkt : PktEvent} (accepted : Accepted frame pkt)
    (tcp : pkt.protocol = IPPROTO_TCP) :
    ∃ segment, extractTcpSeqNum frame pkt = .ok (some segment) ∧
      segment.payloadLen = UInt16.ofNat (frame.length - applicationOffset frame pkt) := by
  obtain ⟨header, -⟩ := accepted.tcp tcp
  have link := accepted.link
  have atLeast := linkLength_ge frame
  have offset : applicationOffset frame pkt = transportOffset frame pkt.ipVersion +
      dataOffset (field frame (transportOffset frame pkt.ipVersion + 12)) := by
    unfold applicationOffset
    dsimp only
    rw [if_neg (by rw [tcp]; decide)]
  unfold extractTcpSeqNum
  rw [if_neg (not_not_intro tcp), ethHdrLen_accepted (by omega), ok_bind, tcpOffset_accepted accepted, ok_bind]
  dsimp only
  rw [if_neg (by omega), readRange_slice (by omega), ok_bind]
  refine ⟨_, rfl, ?_⟩
  dsimp only
  rw [field_slice (by omega), offset]
  unfold dataOffset
  split
  · rfl
  · rw [Nat.sub_eq_zero_of_le (by omega)]
    rfl

theorem TcpFrame.applicationOffset_eq (f : TcpFrame) {pkt : PktEvent} (version : pkt.ipVersion = 4)
    (tcp : pkt.protocol = IPPROTO_TCP) :
    applicationOffset f.bytes pkt = f.link.length + f.ip.ihl * 4 + Probe.dataOffset f.tcp.offset := by
  have transport : transportOffset f.bytes 4 = f.link.length + f.ip.ihl * 4 := ipv4_transportOffset ..
  have offset : field f.bytes (f.link.length + f.ip.ihl * 4 + 12) = f.tcp.offset := by
    rw [← field_drop, f.drop_headers]
    rfl
  unfold applicationOffset
  dsimp only
  rw [version, transport, if_neg (by rw [tcp]; decide), offset]

/-- Every such frame is accepted and has its segment extracted; the length found is that of the payload exactly when
nothing follows the packet, up to the 16 bits of the length. -/
theorem payload_length_right_iff (f : TcpFrame) (timestampNs : UInt64) (pktLen : UInt16) :
    ∃ pkt segment, packetParseRaw f.bytes { timestampNs, pktLen } = .ok (some pkt) ∧
      extractTcpSeqNum f.bytes pkt = .ok (some segment) ∧
      (segment.payloadLen.toNat = f.ip.totalLength.toNat - f.ip.ihl * 4 - dataOffset f.tcp.offset ↔
        f.padding.length % 65536 = 0) := by
  have parsed := packetParseRaw_undoes_encoding f.link f.ip ⟨0, zero_offset_lt⟩ (.segment (.tcp f.tcp))
    (f.payload ++ f.padding) timestampNs pktLen
  rw [if_pos (show (⟨0, zero_offset_lt⟩ : Fin 8192) = 0 from rfl), ← TcpFrame.bytes] at parsed
  obtain ⟨segment, extracted, length⟩ := extractTcpSeqNum_payloadLen (accepted_of_parsed parsed) rfl
  refine ⟨_, segment, parsed, extracted, ?_⟩
  have total := f.totalLength
  have small := f.ip.totalLength.toNat_lt
  rw [length, f.applicationOffset_eq rfl rfl, f.bytes_length, UInt16.toNat_ofNat']
  show _ % 65536 = _ ↔ _
  omega

/-- An acknowledgement without payload, filled up to the 60 bytes of the shortest Ethernet frame. -/
def paddedAck : TcpFrame where
  link := sampleLink
  ip := sampleIpv4
  tcp := ⟨40000, 80, 1, 1, 0x50, 0x10, 512, 0, 0, []⟩
  payload := []
  padding := [0, 0, 0, 0, 0, 0]
  unfragmented := by decide
  dataOffset := by decide
  totalLength := by decide

theorem padded_ack_counted :
    ∃ pkt segment, packetParseRaw paddedAck.bytes {} = .ok (some pkt) ∧
      extractTcpSeqNum paddedAck.bytes pkt = .ok (some segment) ∧ segment.payloadLen = 6 ∧
      paddedAck.ip.totalLength.toNat - paddedAck.ip.ihl * 4 - dataOffset paddedAck.tcp.offset = 0 :=
  ⟨_, _, rfl, rfl, by decide, by decide⟩

/-! ### What an accepted frame may be -/

/-- The upper half of the first byte of the IP header. -/
def versionNibble (frame : Bytes) : UInt8 := field frame (linkLength frame) >>> 4

/-- The frame is what the event says: an IP header of that version that lies whole in the frame, with the ports
behind it. -/
structure Genuine (frame : Bytes) (pkt : PktEvent) : Prop where
  version : versionNibble frame = pkt.ipVersion
  header : pkt.ipVersion = 4 → 20 ≤ ipv4Length frame ∧ linkLength frame + ipv4Length frame ≤ frame.length
  ports : linkLength frame + (if pkt.ipVersion = 4 then 20 else 40) ≤ transportOffset frame pkt.ipVersion

/-- The protocols whose headers the parser reads behind an IPv4 header. -/
def readsTransport (protocol : UInt8) : Prop :=
  protocol = IPPROTO_TCP ∨ protocol = IPPROTO_UDP ∨ protocol = IPPROTO_ICMP

theorem Accepted.transport_inside {frame : Bytes} {pkt : PktEvent} (accepted : Accepted frame pkt)
    (four : pkt.ipVersion = 4) (reads : readsTransport pkt.protocol) : transportOffset frame 4 + 8 ≤ frame.length := by
  obtain ⟨ip, protocol, version, event⟩ := accepted.transport
  rw [four] at event version
  rcases reads with tcp | udp | icmp
  · rw [transportEvent_tcp (protocol.trans tcp)] at event
    split at event
    · cases event
    · omega
  · rw [transportEvent_udp (protocol.trans udp)] at event
    split at event
    · cases event
    · omega
  · rw [transportEvent_icmp (protocol.trans icmp) version] at event
    split at event
    · cases event
    · omega

/-- The first byte behind the link header, which holds the version and the number of words of an IPv4 header. -/
def ipFirst (frame : Bytes) : Nat := (field frame (linkLength frame)).toNat

theorem versionNibble_eq (frame : Bytes) (version : UInt8) :
    versionNibble frame = version ↔ ipFirst frame / 16 = version.toNat := by
  unfold versionNibble ipFirst
  rw [← UInt8.toNat_inj, UInt8.toNat_shiftRight]
  exact Iff.of_eq (congrArg (· = _) (Nat.shiftRight_eq_div_pow _ 4))

theorem ipv4Length_eq (frame : Bytes) : ipv4Length frame = ipFirst frame % 16 * 4 := by
  unfold ipv4Length ipFirst
  rw [UInt8.toNat_and]
  exact congrArg (· * 4) (Nat.and_two_pow_sub_one_eq_mod _ 4)

section
variable {frame : Bytes} {pkt : PktEvent}

theorem Accepted.genuine_four (accepted : Accepted frame pkt) (four : pkt.ipVersion = 4)
    (protocol : pkt.protocol = field frame (linkLength frame + 9)) :
    Genuine frame pkt ↔ 0x45 ≤ ipFirst frame ∧ ipFirst frame ≤ 0x4F ∧
      (readsTransport (field frame (linkLength frame + 9)) ∨ linkLength frame + ipFirst frame % 16 * 4 ≤ frame.length) := by
  have words := ipv4Length_eq frame
  have nibble : versionNibble frame = pkt.ipVersion ↔ ipFirst frame / 16 = 4 := by
    rw [four]
    exact versionNibble_eq frame 4
  have place : transportOffset frame 4 = linkLength frame + ipv4Length frame := rfl
  constructor
  · rintro ⟨version, header, -⟩
    have version := nibble.mp version
    obtain ⟨least, inside⟩ := header four
    exact ⟨by omega, by omega, .inr (by omega)⟩
  · rintro ⟨low, high, covered⟩
    have inside : linkLength frame + ipv4Length frame ≤ frame.length := by
      rcases covered with reads | inside
      · rw [← protocol] at reads
        have transport := accepted.transport_inside four reads
        omega
      · omega
    refine ⟨nibble.mpr (by omega), fun _ => ⟨by omega, inside⟩, ?_⟩
    rw [four, if_pos rfl]
    omega

theorem genuine_six (six : pkt.ipVersion = 6) : Genuine frame pkt ↔ 0x60 ≤ ipFirst frame ∧ ipFirst frame ≤ 0x6F := by
  have notFour : pkt.ipVersion ≠ 4 := by
    rw [six]
    decide
  have nibble : versionNibble frame = pkt.ipVersion ↔ ipFirst frame / 16 = 6 := by
    rw [six]
    exact versionNibble_eq frame 6
  constructor
  · rintro ⟨version, -, -⟩
    have version := nibble.mp version
    exact ⟨by omega, by omega⟩
  · rintro ⟨low, high⟩
    refine ⟨nibble.mpr (by omega), fun four => absurd four notFour, ?_⟩
    rw [transportOffset_six six, if_neg notFour]

end

/-- An accepted frame is genuine exactly when the first byte of its IP header names the version of its EtherType and,
for IPv4, at least five words, which end inside the frame where its protocol byte is not one of those whose header the
parser reads: the parser sees to none of this. -/
theorem accepted_genuine_iff (frame : Bytes) (evt pkt : PktEvent) (accepted : packetParseRaw frame evt = .ok (some pkt)) :
    Genuine frame pkt ↔
      etherType frame = ETH_P_IP ∧ 0x45 ≤ ipFirst frame ∧ ipFirst frame ≤ 0x4F ∧
          (readsTransport (field frame (linkLength frame + 9)) ∨ linkLength frame + ipFirst frame % 16 * 4 ≤ frame.length) ∨
        etherType frame = ETH_P_IPV6 ∧ 0x60 ≤ ipFirst frame ∧ ipFirst frame ≤ 0x6F := by
  have apart : ETH_P_IP ≠ ETH_P_IPV6 := by decide
  have known := accepted_of_parsed accepted
  rcases known.named with ⟨named, four, protocol⟩ | ⟨named, six⟩
  · rw [known.genuine_four four protocol, named]
    simp only [true_and, apart, false_and, or_false]
  · rw [genuine_six six, named]
    simp only [true_and, apart.symm, false_and, false_or]

theorem tagged_frame_genuine : packetParseRaw taggedFrame {} = .ok (some taggedPkt) ∧ Genuine taggedFrame taggedPkt :=
  ⟨rfl, (accepted_genuine_iff taggedFrame {} taggedPkt rfl).mpr
    (.inl ⟨by decide, by decide, by decide, .inl (.inl (by decide))⟩)⟩

/-- UDP in an IPv4 header that gives its own length as zero. -/
def headerlessFrame : Bytes :=
  [2, 0, 0, 0, 0, 1, 2, 0, 0, 0, 0, 2, 0x08, 0x00,
    0x40, 0, 0, 28, 0, 0, 0, 0, 64, 17, 0, 0, 192, 168, 1, 10, 93, 184, 216, 34]

-- The ports are the first four bytes of the IP header.
theorem headerless_frame_accepted :
    ∃ pkt, packetParseRaw headerlessFrame {} = .ok (some pkt) ∧ pkt.srcPort = 0x4000 ∧ pkt.dstPort = 28 ∧
      ¬ Genuine headerlessFrame pkt := by
  refine ⟨_, rfl, by decide, by decide, ?_⟩
  intro genuine
  obtain ⟨words, -⟩ := genuine.header rfl
  exact absurd words (by decide)

end StbEbpf.Probe
