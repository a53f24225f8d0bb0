import StbEbpf.Probe.RawPathSafety

/-!
Where the headers of a frame lie. The parser copies each header out of the frame; here its result is given by the
bytes of the frame itself, at offsets from the start of the frame.
-/

namespace StbEbpf.Probe
open CText Access

theorem readAt_field {p : Bytes} {i : Nat} (inside : i < p.length) : readAt p i = .ok (field p i) := by
  unfold readAt field
  rw [List.getElem?_eq_getElem inside, List.getD_eq_getElem p 0 inside]
  rfl

theorem field_slice {p : Bytes} {offset count i : Nat} (inside : i < count) :
    field ((p.drop offset).take count) i = field p (offset + i) := by
  unfold field
  rw [List.getD_eq_getElem?_getD, List.getD_eq_getElem?_getD, List.getElem?_take_of_lt inside, List.getElem?_drop]

theorem fieldBe16_slice {p : Bytes} {offset count i : Nat} (inside : i + 1 < count) :
    fieldBe16 ((p.drop offset).take count) i = fieldBe16 p (offset + i) := by
  unfold fieldBe16
  rw [field_slice (by omega), field_slice inside, Nat.add_assoc]

theorem fieldLe32_slice {p : Bytes} {offset count i : Nat} (inside : i + 3 < count) :
    fieldLe32 ((p.drop offset).take count) i = fieldLe32 p (offset + i) := by
  unfold fieldLe32
  rw [field_slice (by omega), field_slice (by omega), field_slice (by omega), field_slice inside]
  simp only [Nat.add_assoc]

theorem foldIpv6_slice {p : Bytes} {offset count i : Nat} (inside : i + 15 < count) :
    foldIpv6 ((p.drop offset).take count) i = foldIpv6 p (offset + i) := by
  unfold foldIpv6
  rw [fieldLe32_slice (by omega), fieldLe32_slice (by omega), fieldLe32_slice (by omega), fieldLe32_slice (by omega)]
  simp only [Nat.add_assoc]

/-! ### Offsets -/

def tagged (frame : Bytes) : Bool := fieldBe16 frame 12 = ETH_P_8021Q

def linkLength (frame : Bytes) : Nat := if tagged frame then 18 else 14

def etherType (frame : Bytes) : UInt16 := fieldBe16 frame (if tagged frame then 16 else 12)

/-- The length of the IPv4 header, as the header gives it. -/
def ipv4Length (frame : Bytes) : Nat := (field frame (linkLength frame) &&& 0x0F).toNat * 4

/-- Where the parser reads the ports. -/
def transportOffset (frame : Bytes) (ipVersion : UInt8) : Nat :=
  linkLength frame + if ipVersion = 4 then ipv4Length frame else 40

/-- The flags that the parser keeps for a version. -/
def keptFlags (ipVersion : UInt8) : UInt8 :=
  if ipVersion = 4 then
    TCP_FLAG_SYN ||| TCP_FLAG_ACK ||| TCP_FLAG_FIN ||| TCP_FLAG_RST ||| TCP_FLAG_PSH ||| TCP_FLAG_URG
  else TCP_FLAG_SYN ||| TCP_FLAG_ACK ||| TCP_FLAG_FIN ||| TCP_FLAG_RST

def tcpFlagsAt (frame : Bytes) (ipVersion : UInt8) (offset : Nat) : UInt8 :=
  field frame (offset + 13) &&& keptFlags ipVersion

/-- What the transport header at an offset adds to an event; `none` if the frame ends before it. -/
def transportEvent (frame : Bytes) (offset : Nat) (evt : PktEvent) : Option PktEvent :=
  if evt.protocol = IPPROTO_TCP then
    if frame.length < offset + 20 then none
    else some { evt with
      srcPort := fieldBe16 frame offset, dstPort := fieldBe16 frame (offset + 2)
      tcpFlags := tcpFlagsAt frame evt.ipVersion offset }
  else if evt.protocol = IPPROTO_UDP then
    if frame.length < offset + 8 then none
    else some { evt with srcPort := fieldBe16 frame offset, dstPort := fieldBe16 frame (offset + 2) }
  else if evt.protocol = IPPROTO_ICMP ∧ evt.ipVersion = 4 then
    if frame.length < offset + 8 then none
    else some { evt with srcPort := 0, dstPort := (field frame offset).toUInt16 }
  else some { evt with srcPort := 0, dstPort := 0 }

section
variable {frame : Bytes} {offset : Nat} {evt : PktEvent}

theorem transportEvent_tcp (tcp : evt.protocol = IPPROTO_TCP) :
    transportEvent frame offset evt = if frame.length < offset + 20 then none
      else some { evt with
        srcPort := fieldBe16 frame offset, dstPort := fieldBe16 frame (offset + 2)
        tcpFlags := tcpFlagsAt frame evt.ipVersion offset } :=
  if_pos tcp

theorem transportEvent_udp (udp : evt.protocol = IPPROTO_UDP) :
    transportEvent frame offset evt = if frame.length < offset + 8 then none
      else some { evt with srcPort := fieldBe16 frame offset, dstPort := fieldBe16 frame (offset + 2) } := by
  unfold transportEvent
  rw [if_neg (by rw [udp]; decide), if_pos udp]

theorem transportEvent_icmp (icmp : evt.protocol = IPPROTO_ICMP) (ipv4 : evt.ipVersion = 4) :
    transportEvent frame offset evt = if frame.length < offset + 8 then none
      else some { evt with srcPort := 0, dstPort := (field frame offset).toUInt16 } := by
  unfold transportEvent
  rw [if_neg (by rw [icmp]; decide), if_neg (by rw [icmp]; decide), if_pos ⟨icmp, ipv4⟩]

end

/-- The event after the IPv4 header at `offset`. -/
def ipv4Event (frame : Bytes) (offset : Nat) (evt : PktEvent) : PktEvent :=
  { evt with
    srcIp := fieldLe32 frame (offset + 12), dstIp := fieldLe32 frame (offset + 16)
    protocol := field frame (offset + 9), ipVersion := 4 }

def ipv6Event (frame : Bytes) (offset : Nat) (evt : PktEvent) : PktEvent :=
  { evt with
    srcIp := foldIpv6 frame (offset + 8), dstIp := foldIpv6 frame (offset + 24)
    protocol := field frame (offset + 6), ipVersion := 6 }

/-- The parser's answer, from the bytes of the frame. -/
def parsedFrame (frame : Bytes) (evt : PktEvent) : Option PktEvent :=
  if frame.length < linkLength frame then none
  else if etherType frame = ETH_P_IP then
    if frame.length < linkLength frame + 20 then none
    else if fieldBe16 frame (linkLength frame + 6) &&& 0x1FFF ≠ 0 then none
    else transportEvent frame (transportOffset frame 4) (ipv4Event frame (linkLength frame) evt)
  else if etherType frame = ETH_P_IPV6 then
    if frame.length < linkLength frame + 40 then none
    else transportEvent frame (transportOffset frame 6) (ipv6Event frame (linkLength frame) evt)
  else none

/-! ### The parser's answer -/

theorem readRange_slice {p : Bytes} {offset count : Nat} (inside : ¬ p.length < offset + count) :
    readRange p offset count = .ok ((p.drop offset).take count) :=
  if_pos (by omega)

theorem tcpFlags4_slice (p : Bytes) (offset : Nat) :
    tcpFlags4 ((p.drop offset).take 20) = tcpFlagsAt p 4 offset := by
  unfold tcpFlags4 tcpFlagsAt
  rw [field_slice (by omega)]
  rfl

theorem tcpFlags6_slice (p : Bytes) (offset : Nat) :
    tcpFlags6 ((p.drop offset).take 20) = tcpFlagsAt p 6 offset := by
  unfold tcpFlags6 tcpFlagsAt
  rw [field_slice (by omega)]
  rfl

theorem fieldBe16_first {p : Bytes} {offset count : Nat} (inside : 1 < count) :
    fieldBe16 ((p.drop offset).take count) 0 = fieldBe16 p offset := fieldBe16_slice inside

theorem tcp_reads {p : Bytes} {offset : Nat} (evt : PktEvent) {flags : Bytes → UInt8} {ipVersion : UInt8}
    (kept : flags ((p.drop offset).take 20) = tcpFlagsAt p ipVersion offset) :
    (if p.length < offset + 20 then pure none
      else do
        let tcp ← readRange p offset 20
        return some { evt with srcPort := fieldBe16 tcp 0, dstPort := fieldBe16 tcp 2, tcpFlags := flags tcp } :
          Checked (Option PktEvent)) =
      .ok (if p.length < offset + 20 then none
        else some { evt with
          srcPort := fieldBe16 p offset, dstPort := fieldBe16 p (offset + 2)
          tcpFlags := tcpFlagsAt p ipVersion offset }) := by
  split
  · rfl
  · rename_i long
    rw [readRange_slice long, ok_bind, fieldBe16_first (by omega), fieldBe16_slice (by omega), kept]
    rfl

theorem udp_reads {p : Bytes} {offset : Nat} (evt : PktEvent) :
    (if p.length < offset + 8 then pure none
      else do
        let udp ← readRange p offset 8
        return some { evt with srcPort := fieldBe16 udp 0, dstPort := fieldBe16 udp 2 } :
          Checked (Option PktEvent)) =
      .ok (if p.length < offset + 8 then none
        else some { evt with srcPort := fieldBe16 p offset, dstPort := fieldBe16 p (offset + 2) }) := by
  split
  · rfl
  · rename_i long
    rw [readRange_slice long, ok_bind, fieldBe16_first (by omega), fieldBe16_slice (by omega)]
    rfl

theorem icmp_reads {p : Bytes} {offset : Nat} (evt : PktEvent) :
    (if p.length < offset + 8 then pure none
      else do
        let icmp ← readRange p offset 8
        return some { evt with srcPort := 0, dstPort := (field icmp 0).toUInt16 } : Checked (Option PktEvent)) =
      .ok (if p.length < offset + 8 then none
        else some { evt with srcPort := 0, dstPort := (field p offset).toUInt16 }) := by
  split
  · rfl
  · rename_i long
    rw [readRange_slice long, ok_bind, field_slice (by omega)]
    rfl

theorem parseIpv4_reads (p : Bytes) (offset : Nat) (evt : PktEvent) :
    parseIpv4 p offset evt = .ok (if p.length < offset + 20 then none
      else if fieldBe16 p (offset + 6) &&& 0x1FFF ≠ 0 then none
      else transportEvent p (offset + (field p offset &&& 0x0F).toNat * 4) (ipv4Event p offset evt)) := by
  unfold parseIpv4
  by_cases short : p.length < offset + 20
  · rw [if_pos short, if_pos short]
    rfl
  rw [if_neg short, if_neg short, readRange_slice short, ok_bind, fieldBe16_slice (by omega)]
  by_cases fragment : fieldBe16 p (offset + 6) &&& 0x1FFF ≠ 0
  · rw [if_pos fragment, if_pos fragment]
    rfl
  rw [if_neg fragment, if_neg fragment, field_slice (by omega), field_slice (by omega), fieldLe32_slice (by omega),
    fieldLe32_slice (by omega), Nat.add_zero]
  have protocol : (ipv4Event p offset evt).protocol = field p (offset + 9) := rfl
  unfold transportEvent
  rw [protocol]
  by_cases tcp : field p (offset + 9) = IPPROTO_TCP
  · rw [if_pos tcp]
    dsimp only
    rw [if_pos tcp]
    exact tcp_reads (ipv4Event p offset evt) (tcpFlags4_slice _ _)
  by_cases udp : field p (offset + 9) = IPPROTO_UDP
  · rw [if_neg tcp, if_pos udp]
    dsimp only
    rw [if_neg tcp, if_pos udp]
    exact udp_reads (ipv4Event p offset evt)
  rw [if_neg tcp, if_neg udp]
  dsimp only
  rw [if_neg tcp, if_neg udp]
  by_cases icmp : field p (offset + 9) = IPPROTO_ICMP
  · have both : field p (offset + 9) = IPPROTO_ICMP ∧ (ipv4Event p offset evt).ipVersion = 4 := ⟨icmp, rfl⟩
    rw [if_pos icmp, if_pos both]
    exact icmp_reads (ipv4Event p offset evt)
  · rw [if_neg icmp, if_neg fun both => icmp both.1]
    rfl

theorem parseIpv6_reads (p : Bytes) (offset : Nat) (evt : PktEvent) :
    parseIpv6 p offset evt = .ok (if p.length < offset + 40 then none
      else transportEvent p (offset + 40) (ipv6Event p offset evt)) := by
  unfold parseIpv6
  by_cases short : p.length < offset + 40
  · rw [if_pos short, if_pos short]
    rfl
  rw [if_neg short, if_neg short, readRange_slice short, ok_bind, field_slice (by omega), foldIpv6_slice (by omega),
    foldIpv6_slice (by omega)]
  have protocol : (ipv6Event p offset evt).protocol = field p (offset + 6) := rfl
  unfold transportEvent
  rw [protocol]
  by_cases tcp : field p (offset + 6) = IPPROTO_TCP
  · rw [if_pos tcp]
    dsimp only
    rw [if_pos tcp]
    exact tcp_reads (ipv6Event p offset evt) (tcpFlags6_slice _ _)
  rw [if_neg tcp]
  dsimp only
  rw [if_neg tcp]
  by_cases udp : field p (offset + 6) = IPPROTO_UDP
  · rw [if_pos udp, if_pos udp]
    exact udp_reads (ipv6Event p offset evt)
  · rw [if_neg udp, if_neg udp, if_neg fun both => absurd both.2 (show ¬ (6 : UInt8) = 4 by decide)]
    rfl

theorem packetParseRaw_reads (frame : Bytes) (evt : PktEvent) :
    packetParseRaw frame evt = .ok (parsedFrame frame evt) := by
  have parseIp_reads (offset : Nat) (length : offset = linkLength frame) (long : ¬ frame.length < offset) :
      packetParseRaw.parseIp frame evt (etherType frame) offset = .ok (parsedFrame frame evt) := by
    subst length
    unfold packetParseRaw.parseIp parsedFrame
    rw [if_neg long]
    by_cases ipv4 : etherType frame = ETH_P_IP
    · rw [if_pos ipv4, if_pos ipv4]
      exact parseIpv4_reads frame (linkLength frame) evt
    rw [if_neg ipv4, if_neg ipv4]
    by_cases ipv6 : etherType frame = ETH_P_IPV6
    · rw [if_pos ipv6, if_pos ipv6]
      exact parseIpv6_reads frame (linkLength frame) evt
    · rw [if_neg ipv6, if_neg ipv6]
      rfl
  have type : etherType frame = fieldBe16 frame (if tagged frame then 16 else 12) := rfl
  unfold packetParseRaw
  by_cases short : frame.length < 14
  · have before : frame.length < linkLength frame := by
      unfold linkLength
      split <;> omega
    unfold parsedFrame
    rw [if_pos short, if_pos before]
    rfl
  rw [if_neg short, readAt_field (by omega), readAt_field (by omega), ok_bind, ok_bind]
  dsimp only
  by_cases vlan : fieldBe16 frame 12 = ETH_P_8021Q
  · have tag : tagged frame = true := decide_eq_true vlan
    have length : 18 = linkLength frame := by simp [linkLength, tag]
    rw [if_pos (show be16 _ _ = _ from vlan)]
    by_cases cutOff : frame.length < 18
    · unfold parsedFrame
      rw [if_pos cutOff, if_pos (length ▸ cutOff)]
      rfl
    · rw [if_neg cutOff, readAt_field (by omega), readAt_field (by omega), ok_bind, ok_bind]
      rw [if_pos tag] at type
      have parsed := parseIp_reads 18 length cutOff
      rw [type] at parsed
      exact parsed
  · have tag : ¬ tagged frame = true := fun tag => vlan (of_decide_eq_true tag)
    have length : 14 = linkLength frame := by simp [linkLength, tag]
    rw [if_neg (show ¬ be16 _ _ = _ from vlan)]
    rw [if_neg tag] at type
    have parsed := parseIp_reads 14 length short
    rw [type] at parsed
    exact parsed

end StbEbpf.Probe
