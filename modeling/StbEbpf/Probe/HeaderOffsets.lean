import StbEbpf.Probe.Frames

/-!
`main.c` finds the headers of an accepted frame again, twice over: once for the sequence number and once for the
application payload. Here its offsets are compared with those the parser went by.
-/

namespace StbEbpf.Probe
open CText Access

section
variable {frame : Bytes} {offset : Nat} {evt pkt : PktEvent}

theorem transportEvent_keeps (event : transportEvent frame offset evt = some pkt) :
    pkt.protocol = evt.protocol ∧ pkt.ipVersion = evt.ipVersion := by
  unfold transportEvent at event
  split_ifs at event <;> cases event <;> exact ⟨rfl, rfl⟩

/-- What holds of an accepted frame: the EtherType gave the version, and the parser has read the transport header. -/
structure Accepted (frame : Bytes) (pkt : PktEvent) : Prop where
  link : linkLength frame + 20 ≤ frame.length
  named : etherType frame = ETH_P_IP ∧ pkt.ipVersion = 4 ∧ pkt.protocol = field frame (linkLength frame + 9) ∨
    etherType frame = ETH_P_IPV6 ∧ pkt.ipVersion = 6
  transport : ∃ ip : PktEvent, ip.protocol = pkt.protocol ∧ ip.ipVersion = pkt.ipVersion ∧
    transportEvent frame (transportOffset frame pkt.ipVersion) ip = some pkt

theorem accepted_of_parsed (accepted : packetParseRaw frame evt = .ok (some pkt)) : Accepted frame pkt := by
  rw [packetParseRaw_reads] at accepted
  replace accepted := Except.ok.inj accepted
  unfold parsedFrame at accepted
  split at accepted
  · cases accepted
  · split at accepted
    · rename_i named
      split at accepted
      · cases accepted
      · split at accepted
        · cases accepted
        · rename_i long _
          obtain ⟨protocol, version⟩ := transportEvent_keeps accepted
          have four : pkt.ipVersion = 4 := version
          refine ⟨by omega, .inl ⟨named, four, protocol⟩, _, protocol.symm, version.symm, ?_⟩
          rw [four]
          exact accepted
    · split at accepted
      · rename_i named
        split at accepted
        · cases accepted
        · rename_i long
          obtain ⟨protocol, version⟩ := transportEvent_keeps accepted
          have six : pkt.ipVersion = 6 := version
          refine ⟨by omega, .inr ⟨named, six⟩, _, protocol.symm, version.symm, ?_⟩
          rw [six]
          exact accepted
      · cases accepted

theorem Accepted.version (accepted : Accepted frame pkt) : pkt.ipVersion = 4 ∨ pkt.ipVersion = 6 :=
  accepted.named.imp (·.2.1) (·.2)

theorem Accepted.tcp (accepted : Accepted frame pkt) (tcp : pkt.protocol = IPPROTO_TCP) :
    transportOffset frame pkt.ipVersion + 20 ≤ frame.length ∧
      pkt.srcPort = fieldBe16 frame (transportOffset frame pkt.ipVersion) ∧
      pkt.dstPort = fieldBe16 frame (transportOffset frame pkt.ipVersion + 2) ∧
      pkt.tcpFlags = tcpFlagsAt frame pkt.ipVersion (transportOffset frame pkt.ipVersion) := by
  obtain ⟨ip, protocol, version, event⟩ := accepted.transport
  rw [transportEvent_tcp (protocol.trans tcp)] at event
  split at event
  · cases event
  · rename_i long
    have same := Option.some.inj event
    refine ⟨by omega, ?_, ?_, ?_⟩
    · exact (congrArg PktEvent.srcPort same).symm
    · exact (congrArg PktEvent.dstPort same).symm
    · rw [← version]
      exact (congrArg PktEvent.tcpFlags same).symm.trans (by rw [version])

end

/-- `main.c` and the parser agree on the link header. -/
theorem ethHdrLen_accepted {frame : Bytes} (long : 16 ≤ frame.length) : ethHdrLen frame = .ok (linkLength frame) := by
  have same : (field frame 12 = 0x81 ∧ field frame 13 = 0x00) ↔ tagged frame = true := by
    unfold tagged
    rw [decide_eq_true_iff, ← UInt16.toNat_inj]
    unfold fieldBe16
    rw [be16_toNat, ← UInt8.toNat_inj, ← UInt8.toNat_inj]
    have high := (field frame 12).toNat_lt
    have low := (field frame 13).toNat_lt
    show (_ = 129 ∧ _ = 0) ↔ (field frame 12).toNat * 256 + (field frame 13).toNat = 33024
    omega
  unfold ethHdrLen linkLength
  rw [if_pos long, readAt_field (by omega), readAt_field (by omega), ok_bind, ok_bind]
  by_cases tag : tagged frame = true
  · rw [if_pos (same.mpr tag), if_pos tag]
    rfl
  · rw [if_neg fun both => tag (same.mp both), if_neg tag]
    rfl

theorem tcpOffset_accepted {frame : Bytes} {pkt : PktEvent} (accepted : Accepted frame pkt) :
    tcpOffset frame pkt (linkLength frame) = .ok (some (transportOffset frame pkt.ipVersion)) := by
  have long := accepted.link
  unfold tcpOffset transportOffset ipv4Length
  rcases accepted.version with four | six
  · rw [if_pos four, if_pos four, if_neg (by omega), readAt_field (by omega), ok_bind]
    rfl
  · have other : ¬ pkt.ipVersion = 4 := by
      rw [six]
      decide
    rw [if_neg other, if_neg other, if_pos six]
    rfl

/-! ### The sequence number -/

def fieldBe32 (header : Bytes) (i : Nat) : UInt32 :=
  UInt32.ofNat ((fieldBe16 header i).toNat * 65536 + (fieldBe16 header (i + 2)).toNat)

theorem byte_shiftLeft {byte : UInt8} {count : UInt32} (small : count.toNat ≤ 24) :
    (byte.toUInt32 <<< count).toNat = byte.toNat * 2 ^ count.toNat := by
  have bound := byte.toNat_lt
  rw [UInt32.toNat_shiftLeft, UInt8.toNat_toUInt32, Nat.mod_eq_of_lt (show count.toNat < 32 by omega), Nat.shiftLeft_eq,
    Nat.mod_eq_of_lt]
  calc byte.toNat * 2 ^ count.toNat ≤ 255 * 2 ^ 24 :=
        Nat.mul_le_mul (by omega) (Nat.pow_le_pow_right (by decide) small)
    _ < 2 ^ 32 := by decide

/-- Joining a word to a multiple of a power above it adds the two. -/
theorem or_eq_add {high low : Nat} (count : Nat) (small : low < 2 ^ count) :
    high * 2 ^ count ||| low = high * 2 ^ count + low := by
  rw [← Nat.shiftLeft_eq, Nat.shiftLeft_add_eq_or_of_lt small]

theorem be32_toNat (a b c d : UInt8) :
    (a.toUInt32 <<< 24 ||| b.toUInt32 <<< 16 ||| c.toUInt32 <<< 8 ||| d.toUInt32).toNat =
      ((a.toNat * 256 + b.toNat) * 256 + c.toNat) * 256 + d.toNat := by
  have smallB := b.toNat_lt
  have smallC := c.toNat_lt
  have smallD := d.toNat_lt
  rw [UInt32.toNat_or, UInt32.toNat_or, UInt32.toNat_or, byte_shiftLeft (by decide), byte_shiftLeft (by decide),
    byte_shiftLeft (by decide), UInt8.toNat_toUInt32]
  show a.toNat * 2 ^ 24 ||| b.toNat * 2 ^ 16 ||| c.toNat * 2 ^ 8 ||| d.toNat = _
  rw [or_eq_add 24 (by omega), show a.toNat * 2 ^ 24 + b.toNat * 2 ^ 16 = (a.toNat * 256 + b.toNat) * 2 ^ 16 by omega,
    or_eq_add 16 (by omega), show (a.toNat * 256 + b.toNat) * 2 ^ 16 + c.toNat * 2 ^ 8 =
      ((a.toNat * 256 + b.toNat) * 256 + c.toNat) * 2 ^ 8 by omega, or_eq_add 8 (by omega)]
  omega

theorem or_reversed (w x y z : UInt32) : w ||| x ||| y ||| z = z ||| y ||| x ||| w := by ac_rfl

theorem word_toNat (addr : Ipv4Addr) :
    addr.word.toNat = ((addr.d.toNat * 256 + addr.c.toNat) * 256 + addr.b.toNat) * 256 + addr.a.toNat := by
  unfold Ipv4Addr.word
  rw [or_reversed, be32_toNat]

theorem fieldBe32_shifts (header : Bytes) (i : Nat) :
    (field header i).toUInt32 <<< 24 ||| (field header (i + 1)).toUInt32 <<< 16 |||
      (field header (i + 2)).toUInt32 <<< 8 ||| (field header (i + 3)).toUInt32 = fieldBe32 header i := by
  have high := (fieldBe16 header i).toNat_lt
  have low := (fieldBe16 header (i + 2)).toNat_lt
  apply UInt32.toNat_inj.mp
  unfold fieldBe32
  rw [be32_toNat, UInt32.toNat_ofNat_of_lt' (by show _ < 2 ^ 32; omega)]
  unfold fieldBe16
  rw [be16_toNat, be16_toNat, show i + 2 + 1 = i + 3 from rfl]
  omega

/-- Every accepted TCP frame has a sequence number, and it stands behind the ports the parser has read. -/
theorem extractTcpSeqNum_same_header (frame : Bytes) (evt pkt : PktEvent)
    (accepted : packetParseRaw frame evt = .ok (some pkt)) (tcp : pkt.protocol = IPPROTO_TCP) :
    ∃ segment, extractTcpSeqNum frame pkt = .ok (some segment) ∧
      pkt.srcPort = fieldBe16 frame (transportOffset frame pkt.ipVersion) ∧
      pkt.dstPort = fieldBe16 frame (transportOffset frame pkt.ipVersion + 2) ∧
      segment.seqNum = fieldBe32 frame (transportOffset frame pkt.ipVersion + 4) ∧
      segment.tcpFlags = pkt.tcpFlags &&& (TCP_FLAG_SYN ||| TCP_FLAG_ACK ||| TCP_FLAG_FIN ||| TCP_FLAG_RST) := by
  have known := accepted_of_parsed accepted
  obtain ⟨long, src, dst, flags⟩ := known.tcp tcp
  have link := known.link
  have atLeast : 14 ≤ linkLength frame := by
    unfold linkLength
    split <;> omega
  unfold extractTcpSeqNum
  rw [if_neg (not_not_intro tcp), ethHdrLen_accepted (by omega), ok_bind, tcpOffset_accepted known, ok_bind]
  dsimp only
  rw [if_neg (by omega), readRange_slice (by omega), ok_bind]
  refine ⟨_, rfl, src, dst, ?_, ?_⟩
  · dsimp only
    rw [field_slice (by omega), field_slice (by omega), field_slice (by omega), field_slice (by omega)]
    exact fieldBe32_shifts frame (transportOffset frame pkt.ipVersion + 4)
  · have narrower : keptFlags pkt.ipVersion &&& keptFlags 6 = keptFlags 6 := by
      rcases known.version with four | six
      · rw [four]
        decide
      · rw [six]
        decide
    dsimp only
    rw [tcpFlags6_slice, flags]
    unfold tcpFlagsAt
    rw [UInt8.and_assoc]
    exact congrArg _ narrower.symm

/-- A tagged frame with four bytes of IPv4 options. -/
def taggedFrame : Bytes :=
  ipv4Frame { sampleLink with vlan := some 7 } { sampleIpv4 with options := [#v[1, 1, 1, 0]], fits := by decide } 0
    (.segment (.tcp ⟨40000, 80, 7, 0, 0x50, 0x12, 512, 0, 0, []⟩)) []

def taggedPkt : PktEvent where
  srcIp := 0x0A01A8C0
  dstIp := 0x22D8B85D
  srcPort := 40000
  dstPort := 80
  protocol := 6
  tcpFlags := 0x12
  ipVersion := 4

theorem tagged_frame_extracted :
    packetParseRaw taggedFrame {} = .ok (some taggedPkt) ∧
      ∃ segment, extractTcpSeqNum taggedFrame taggedPkt = .ok (some segment) ∧
        taggedPkt.srcPort = fieldBe16 taggedFrame (transportOffset taggedFrame 4) ∧
        taggedPkt.dstPort = fieldBe16 taggedFrame (transportOffset taggedFrame 4 + 2) ∧
        segment.seqNum = fieldBe32 taggedFrame (transportOffset taggedFrame 4 + 4) ∧
        segment.tcpFlags =
          taggedPkt.tcpFlags &&& (TCP_FLAG_SYN ||| TCP_FLAG_ACK ||| TCP_FLAG_FIN ||| TCP_FLAG_RST) :=
  ⟨rfl, extractTcpSeqNum_same_header taggedFrame {} taggedPkt rfl rfl⟩

/-! ### The application payload -/

/-- Where the bytes start that `main` hands to `parse_dns_payload`, if it does. -/
def dnsStart (frame : Bytes) (pkt : PktEvent) : Checked (Option Nat) := do
  if pkt.isDns ∧ frame.length > 42 then
    let offset ← dnsOffset frame
    return if frame.length > offset then some offset else none
  else return none

def dataOffset (byte : UInt8) : Nat := ((byte >>> 4) &&& 0x0F).toNat * 4

/-- Where the bytes start that `main` hands to `parse_http_payload`, if it does. -/
def httpStart (frame : Bytes) (pkt : PktEvent) : Checked (Option Nat) := do
  if pkt.isHttp ∧ frame.length > 54 then
    let offset ← httpTcpOffset frame pkt
    if frame.length ≥ offset + 20 then
      let httpOffset := offset + dataOffset (← readAt frame (offset + 12))
      return if frame.length > httpOffset then some httpOffset else none
    else return none
  else return none

theorem parseDnsFrame_start (frame : Bytes) (pkt : PktEvent) (flow : FlowEvent) :
    parseDnsFrame frame pkt flow = do
      match ← dnsStart frame pkt with
      | some start => parseDnsPayload (frame.drop start) flow (pkt.srcPort = PORT_DNS)
      | none => return flow := by
  unfold parseDnsFrame dnsStart
  by_cases dns : pkt.isDns ∧ frame.length > 42
  · rw [if_pos dns, if_pos dns, bind_assoc]
    congr 1
    funext offset
    by_cases long : frame.length > offset
    · rw [if_pos long, if_pos long]
      rfl
    · rw [if_neg long, if_neg long]
      rfl
  · rw [if_neg dns, if_neg dns]
    rfl

theorem parseHttpFrame_start (initial : HttpBuf) (frame : Bytes) (pkt : PktEvent) (flow : FlowEvent) :
    parseHttpFrame initial frame pkt flow = do
      match ← httpStart frame pkt with
      | some start => parseHttpPayload initial (frame.drop start) flow (pkt.srcPort = PORT_HTTP)
      | none => return flow := by
  unfold parseHttpFrame httpStart
  by_cases http : pkt.isHttp ∧ frame.length > 54
  · rw [if_pos http, if_pos http, bind_assoc]
    congr 1
    funext offset
    by_cases header : frame.length ≥ offset + 20
    · rw [if_pos header, if_pos header, bind_assoc]
      congr 1
      funext byte
      unfold dataOffset
      dsimp only
      by_cases long : frame.length > offset + ((byte >>> 4) &&& 0x0F).toNat * 4
      · rw [if_pos long, if_pos long]
        rfl
      · rw [if_neg long, if_neg long]
        rfl
    · rw [if_neg header, if_neg header]
      rfl
  · rw [if_neg http, if_neg http]
    rfl

def payloadStart (frame : Bytes) (pkt : PktEvent) : Checked (Option Nat) :=
  if pkt.isDns then dnsStart frame pkt else httpStart frame pkt

/-- The end of the transport header from which the parser read the ports. -/
def applicationOffset (frame : Bytes) (pkt : PktEvent) : Nat :=
  let offset := transportOffset frame pkt.ipVersion
  if pkt.protocol = IPPROTO_UDP then offset + 8 else offset + dataOffset (field frame (offset + 12))

/-- For UDP the IPv4 header has no options. For TCP the version is 6, or the byte that stands where the data offset is
without options leads to the same place; the frame has to be longer than a frame without payload. -/
def PayloadFound (frame : Bytes) (pkt : PktEvent) : Prop :=
  if pkt.protocol = IPPROTO_UDP then pkt.ipVersion = 4 ∧ ipv4Length frame = 20
  else pkt.ipVersion = 6 ∨
    (54 < frame.length ∧ linkLength frame + 40 ≤ frame.length ∧
      20 + dataOffset (field frame (linkLength frame + 32)) =
        ipv4Length frame + dataOffset (field frame (transportOffset frame 4 + 12)))

theorem linkLength_ge (frame : Bytes) : 14 ≤ linkLength frame := by
  unfold linkLength
  split <;> omega

section
variable {frame : Bytes} {pkt : PktEvent}

theorem dnsStart_accepted (accepted : Accepted frame pkt) (dns : pkt.isDns = true) :
    dnsStart frame pkt = .ok (if linkLength frame + 28 < frame.length then some (linkLength frame + 28) else none) := by
  have link := accepted.link
  have atLeast := linkLength_ge frame
  unfold dnsStart
  by_cases long : frame.length > 42
  · unfold dnsOffset
    rw [if_pos ⟨dns, long⟩, ethHdrLen_accepted (by omega)]
    rfl
  · rw [if_neg fun both => long both.2, if_neg (by omega)]
    rfl

theorem httpTcpOffset_accepted (accepted : Accepted frame pkt) :
    httpTcpOffset frame pkt = .ok (linkLength frame + if pkt.ipVersion = 6 then 40 else 20) := by
  have link := accepted.link
  have atLeast := linkLength_ge frame
  unfold httpTcpOffset
  rw [ethHdrLen_accepted (by omega)]
  rfl

/-- What `main` hands on when it takes the TCP header to be at `offset`. -/
theorem httpStart_accepted (accepted : Accepted frame pkt) (http : pkt.isHttp = true) {offset : Nat}
    (here : offset = linkLength frame + if pkt.ipVersion = 6 then 40 else 20) :
    httpStart frame pkt = .ok (if 54 < frame.length ∧ offset + 20 ≤ frame.length ∧
        offset + dataOffset (field frame (offset + 12)) < frame.length then
      some (offset + dataOffset (field frame (offset + 12))) else none) := by
  unfold httpStart
  by_cases long : frame.length > 54
  · rw [if_pos ⟨http, long⟩, httpTcpOffset_accepted accepted, ok_bind, ← here]
    by_cases header : frame.length ≥ offset + 20
    · rw [if_pos header, readAt_field (by omega), ok_bind]
      dsimp only
      by_cases payload : frame.length > offset + dataOffset (field frame (offset + 12))
      · rw [if_pos payload, if_pos ⟨long, header, payload⟩]
        rfl
      · rw [if_neg payload, if_neg fun all => payload all.2.2]
        rfl
    · rw [if_neg header, if_neg fun all => header all.2.1]
      rfl
  · rw [if_neg fun both => long both.2, if_neg fun all => long all.1]
    rfl

theorem transportOffset_six (six : pkt.ipVersion = 6) :
    transportOffset frame pkt.ipVersion = linkLength frame + 40 := by
  unfold transportOffset
  rw [six]
  rfl

theorem dns_found_iff (accepted : Accepted frame pkt) (dns : pkt.isDns = true) (udp : pkt.protocol = IPPROTO_UDP)
    (payload : applicationOffset frame pkt < frame.length) :
    dnsStart frame pkt = .ok (some (applicationOffset frame pkt)) ↔ pkt.ipVersion = 4 ∧ ipv4Length frame = 20 := by
  rw [dnsStart_accepted accepted dns]
  unfold applicationOffset at payload ⊢
  dsimp only at payload ⊢
  rw [if_pos udp] at payload ⊢
  rcases accepted.version with four | six
  · unfold transportOffset at payload ⊢
    rw [if_pos four] at payload ⊢
    constructor
    · intro same
      split at same
      · have start := Option.some.inj (Except.ok.inj same)
        exact ⟨four, by omega⟩
      · cases same
    · rintro ⟨-, plain⟩
      rw [plain] at payload ⊢
      rw [if_pos (by omega)]
  · rw [transportOffset_six six] at payload ⊢
    constructor
    · intro same
      split at same
      · have start := Option.some.inj (Except.ok.inj same)
        omega
      · cases same
    · rintro ⟨four, -⟩
      rw [six] at four
      exact absurd four (by decide)

theorem http_found_iff (accepted : Accepted frame pkt) (http : pkt.isHttp = true) (tcp : pkt.protocol = IPPROTO_TCP)
    (payload : applicationOffset frame pkt < frame.length) :
    httpStart frame pkt = .ok (some (applicationOffset frame pkt)) ↔
      pkt.ipVersion = 6 ∨ (54 < frame.length ∧ linkLength frame + 40 ≤ frame.length ∧
        20 + dataOffset (field frame (linkLength frame + 32)) =
          ipv4Length frame + dataOffset (field frame (transportOffset frame 4 + 12))) := by
  have atLeast := linkLength_ge frame
  obtain ⟨header, -⟩ := accepted.tcp tcp
  have other : ¬ pkt.protocol = IPPROTO_UDP := by
    rw [tcp]
    decide
  unfold applicationOffset at payload ⊢
  dsimp only at payload ⊢
  rw [if_neg other] at payload ⊢
  rw [httpStart_accepted accepted http rfl]
  rcases accepted.version with four | six
  · have older : ¬ pkt.ipVersion = 6 := by
      rw [four]
      decide
    rw [if_neg older]
    rw [four] at payload ⊢
    have place : transportOffset frame 4 = linkLength frame + ipv4Length frame := rfl
    constructor
    · intro same
      split at same
      · rename_i all
        have start : linkLength frame + 20 + dataOffset (field frame (linkLength frame + 32)) =
            transportOffset frame 4 + dataOffset (field frame (transportOffset frame 4 + 12)) :=
          Option.some.inj (Except.ok.inj same)
        exact Or.inr ⟨all.1, by omega, by omega⟩
      · cases same
    · rintro (six | ⟨long, header, same⟩)
      · exact absurd six (by decide)
      · have start : linkLength frame + 20 + dataOffset (field frame (linkLength frame + 20 + 12)) =
            transportOffset frame 4 + dataOffset (field frame (transportOffset frame 4 + 12)) := by
          show linkLength frame + 20 + dataOffset (field frame (linkLength frame + 32)) = _
          omega
        rw [start, if_pos ⟨long, by omega, payload⟩]
  · have long : 54 < frame.length := by
      have place := @transportOffset_six frame pkt six
      omega
    rw [if_pos six, ← transportOffset_six six, if_pos ⟨long, header, payload⟩]
    exact iff_of_true rfl (Or.inl six)

end

/-- Of an accepted DNS or HTTP frame that has an application payload, `main` hands on exactly that payload if and only
if its offsets come out as the parser's did. -/
theorem payload_found_iff (frame : Bytes) (evt pkt : PktEvent) (accepted : packetParseRaw frame evt = .ok (some pkt))
    (application : pkt.isDns ∨ pkt.isHttp) (payload : applicationOffset frame pkt < frame.length) :
    payloadStart frame pkt = .ok (some (applicationOffset frame pkt)) ↔ PayloadFound frame pkt := by
  have known := accepted_of_parsed accepted
  unfold payloadStart PayloadFound
  by_cases dns : pkt.isDns = true
  · have udp : pkt.protocol = IPPROTO_UDP := (of_decide_eq_true dns).1
    rw [if_pos dns, if_pos udp]
    exact dns_found_iff known dns udp payload
  · have http := application.resolve_left dns
    have tcp : pkt.protocol = IPPROTO_TCP := (of_decide_eq_true http).1
    rw [if_neg dns, if_neg (by rw [tcp]; decide)]
    exact http_found_iff known http tcp payload

def queryFrame (header : Ipv4Header) : Bytes :=
  ipv4Frame sampleLink header 0 (.segment (.udp ⟨40000, 53, 20, 0⟩)) [0, 1, 1, 0, 0, 1, 0, 0, 0, 0, 0, 0]

def plainQuery : Bytes := queryFrame sampleIpv4

def optionsQuery : Bytes := queryFrame { sampleIpv4 with options := [#v[1, 1, 1, 0]], fits := by decide }

def queryPkt : PktEvent where
  srcIp := 0x0A01A8C0
  dstIp := 0x22D8B85D
  srcPort := 40000
  dstPort := 53
  protocol := 17
  ipVersion := 4

theorem plain_query_found : payloadStart plainQuery queryPkt = .ok (some (applicationOffset plainQuery queryPkt)) :=
  (payload_found_iff plainQuery {} queryPkt rfl (Or.inl rfl) (by decide)).mpr ⟨rfl, rfl⟩

-- With four bytes of options `main` starts four bytes early, inside the UDP header.
theorem query_with_options_missed :
    packetParseRaw optionsQuery {} = .ok (some queryPkt) ∧ queryPkt.isDns ∧
      applicationOffset optionsQuery queryPkt < optionsQuery.length ∧
      payloadStart optionsQuery queryPkt ≠ .ok (some (applicationOffset optionsQuery queryPkt)) := by
  have early : payloadStart optionsQuery queryPkt = .ok (some 42) := rfl
  refine ⟨rfl, rfl, by decide, fun same => ?_⟩
  rw [early] at same
  exact absurd (Option.some.inj (Except.ok.inj same)) (by decide)

end StbEbpf.Probe
