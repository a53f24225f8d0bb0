import StbEbpf.Agent.NetworkFlow
import StbEbpf.Protocol.FlowConservation

/-!
One frame on the two capture paths: through a classifier and `handleFlowEvent`, and through `processIPv4` of the protocol
collector. The first looks for the ports behind twenty bytes of IP header, the second behind the header as it is.
-/

namespace StbEbpf.Agent
open CText Access Words NetworkOrder StbEbpf.Probe
open StbEbpf.Protocol.ProtocolCollector (Flow UnicodeCase Arrival caseless reportedFlow ipString)
open StbEbpf.Protocol.ProtocolCollector.processIPv4

/-- The flow that a frame belongs to. -/
def frameFlow (header : Ipv4Header) (segment : Segment) : Flow where
  srcIP := dotted header.src
  dstIP := dotted header.dst
  srcPort := segment.srcPort
  dstPort := segment.dstPort
  protocol := protocolText segment

/-! ### The protocol collector -/

section
variable {packet payload : Bytes} {ihl : Nat} {segment : Segment}

theorem ports_at (here : packet.drop ihl = segment.bytes ++ payload) (inside : ihl + 4 ≤ packet.length) :
    readWord16 packet ihl = .ok segment.srcPort ∧ readWord16 packet (ihl + 2) = .ok segment.dstPort := by
  obtain ⟨behind, start⟩ := segment_start segment payload
  rw [start] at here
  have second : packet.drop (ihl + 2) = bytes16 segment.dstPort ++ behind := by
    rw [← List.drop_drop, here, List.drop_left' (bytes16_length _)]
  exact ⟨readWord16_at here (by omega), readWord16_at second (by omega)⟩

theorem transport_reports (table : UnicodeCase) (srcIP dstIP : Bytes)
    (here : packet.drop ihl = segment.bytes ++ payload) (inside : ihl + segment.bytes.length ≤ packet.length) :
    Safe (transport table packet srcIP dstIP ihl segment.protocol) fun part =>
      part.protoName = protocolText segment ∧ part.srcPort = segment.srcPort ∧ part.dstPort = segment.dstPort := by
  cases segment with
  | tcp header =>
    have size := tcp_length header
    obtain ⟨src, dst⟩ := ports_at here (by omega)
    have read : Safe (tcpHeader packet ihl) fun found => found.1 = header.srcPort ∧ found.2.1 = header.dstPort := by
      unfold tcpHeader
      rw [if_neg (by omega), src, ok_bind, dst, ok_bind]
      refine safe_bind (completes_readAt (by omega)) fun tcpFlags _ => ?_
      exact safe_bind (completes_readAt (by omega)) fun offsetByte _ => safe_pure ⟨rfl, rfl⟩
    refine safe_bind read ?_
    rintro ⟨srcPort, dstPort, tcpFlags, tcpPayload⟩ ⟨rfl, rfl⟩
    refine safe_bind (httpRecord_completes table tcpPayload srcIP dstIP header.srcPort header.dstPort) fun record _ => ?_
    exact safe_pure ⟨rfl, rfl, rfl⟩
  | udp header =>
    have size : (Segment.udp header).bytes.length = 8 := rfl
    obtain ⟨src, dst⟩ := ports_at here (by omega)
    have read : udpHeader packet ihl = .ok (header.srcPort, header.dstPort) := by
      unfold udpHeader
      rw [if_neg (by omega), src, ok_bind, dst, ok_bind]
      rfl
    show Safe (udp packet srcIP dstIP ihl) _
    unfold udp
    rw [read, ok_bind]
    refine safe_bind (dnsRecord_completes packet srcIP dstIP ihl header.srcPort header.dstPort) fun record _ => ?_
    exact safe_pure ⟨rfl, rfl, rfl⟩

end

theorem dotted_ne_loopback {addr : Ipv4Addr} (outside : addr ≠ ⟨127, 0, 0, 1⟩) : dotted addr ≠ ascii "127.0.0.1" := by
  intro same
  apply outside
  apply dotted_injective
  rw [same]
  decide

/-- The packet of a frame is not rejected, and belongs to the flow of the frame. -/
theorem parse_reports {skb : Skb} {header : Ipv4Header} {segment : Segment} {payload : Bytes} (table : UnicodeCase)
    (carries : Carries skb header segment.protocol (segment.bytes ++ payload))
    (src : header.src ≠ ⟨127, 0, 0, 1⟩) (dst : header.dst ≠ ⟨127, 0, 0, 1⟩) :
    ∃ arrival, parse table (skb.frame.drop 14) = .ok (some arrival) ∧ arrival.flow = frameFlow header segment := by
  obtain ⟨fragmentOffset, packet⟩ := carries.packet
  have minimum : 5 ≤ header.ihl := Nat.le_add_right _ _
  have length : (skb.frame.drop 14).length = header.ihl * 4 + (segment.bytes.length + payload.length) := by
    rw [packet, List.length_append, List.length_append, header.bytes_length]
  have behind : (skb.frame.drop 14).drop (header.ihl * 4) = segment.bytes ++ payload := by
    rw [packet, List.drop_left' (header.bytes_length fragmentOffset segment.protocol)]
  have first : readAt (skb.frame.drop 14) 0 = .ok (UInt8.ofNat (4 * 16 + header.ihl)) := by
    rw [packet]
    rfl
  have protocol : readAt (skb.frame.drop 14) 9 = .ok segment.protocol := by
    rw [packet]
    rfl
  have srcBytes : readRange (skb.frame.drop 14) 12 4 = .ok header.src.bytes := by
    rw [readRange_inside (by omega), packet]
    rfl
  have dstBytes : readRange (skb.frame.drop 14) 16 4 = .ok header.dst.bytes := by
    rw [readRange_inside (by omega), packet]
    rfl
  obtain ⟨part, transported, name, srcPort, dstPort⟩ :=
    transport_reports table (dotted header.src) (dotted header.dst) behind (by omega)
  have apart : ¬ (ipString header.src.bytes = ascii "127.0.0.1" ∨ ipString header.dst.bytes = ascii "127.0.0.1") :=
    not_or.mpr ⟨dotted_ne_loopback src, dotted_ne_loopback dst⟩
  refine ⟨⟨frameFlow header segment, (skb.frame.drop 14).length, part.tcpFlags, part.record⟩, ?_, rfl⟩
  unfold parse
  rw [if_neg (by omega), first, ok_bind]
  dsimp only
  rw [header.ihl_read, if_neg (by omega), protocol, ok_bind, srcBytes, ok_bind, dstBytes, ok_bind, if_neg apart]
  show (transport table (skb.frame.drop 14) (dotted header.src) (dotted header.dst) (header.ihl * 4) segment.protocol >>=
    _) = _
  rw [transported, ok_bind, name, srcPort, dstPort]
  rfl

/-! ### The BPF path -/

section
variable {skb : Skb} {header : Ipv4Header} {segment : Segment} {payload : Bytes}
  (carries : Carries skb header segment.protocol (segment.bytes ++ payload))
include carries

theorem event_reports (r : Reporter) (hook : TcHook) {excluded : ExcludeDestIps} (ts : UInt64) (padding : Bytes)
    (complete : 34 ≤ skb.linear.length) (admitted : ex excluded (hook.tested header).word = false) :
    ∃ fe event, hook.classifier excluded ts skb = .ok (some fe) ∧
      handleFlowEvent r (fe.sample ++ padding) = .ok (some event) ∧
      reportedFlow event =
        { frameFlow header segment with
          srcPort := (skb.portsOf segment.protocol).1, dstPort := (skb.portsOf segment.protocol).2 } := by
  obtain ⟨dir, classified⟩ := hook_classifies carries hook excluded ts
  rw [if_pos ⟨complete, admitted⟩] at classified
  refine ⟨_, _, classified, handleFlowEvent_reads _ padding r, ?_⟩
  unfold reportedFlow
  simp only [ipToString_word32, protocolText_read]
  rfl

end

/-- The components of the event of a frame and of the flow that its packet is counted in are the same. -/
def PathsAgree (table : UnicodeCase) (r : Reporter) (hook : TcHook) (excluded : ExcludeDestIps) (ts : UInt64) (skb : Skb)
    (padding : Bytes) : Prop :=
  ∃ fe event arrival, hook.classifier excluded ts skb = .ok (some fe) ∧
    handleFlowEvent r (fe.sample ++ padding) = .ok (some event) ∧
    parse table (skb.frame.drop 14) = .ok (some arrival) ∧ reportedFlow event = arrival.flow

section
variable {skb : Skb} {header : Ipv4Header} {segment : Segment} {payload : Bytes} {excluded : ExcludeDestIps} {hook : TcHook}

theorem pathsAgree_iff_ports (table : UnicodeCase) (r : Reporter) (ts : UInt64) (padding : Bytes)
    (carries : Carries skb header segment.protocol (segment.bytes ++ payload))
    (complete : 34 ≤ skb.linear.length) (admitted : ex excluded (hook.tested header).word = false)
    (src : header.src ≠ ⟨127, 0, 0, 1⟩) (dst : header.dst ≠ ⟨127, 0, 0, 1⟩) :
    PathsAgree table r hook excluded ts skb padding ↔
      skb.portsOf segment.protocol = (segment.srcPort, segment.dstPort) := by
  obtain ⟨fe, event, classified, handled, reported⟩ := event_reports carries r hook ts padding complete admitted
  obtain ⟨arrival, parsed, counted⟩ := parse_reports table carries src dst
  constructor
  · rintro ⟨fe', event', arrival', classified', handled', parsed', same⟩
    cases Option.some.inj (Except.ok.inj (classified.symm.trans classified'))
    cases Option.some.inj (Except.ok.inj (handled.symm.trans handled'))
    cases Option.some.inj (Except.ok.inj (parsed.symm.trans parsed'))
    rw [reported, counted] at same
    exact Prod.ext (congrArg Flow.srcPort same) (congrArg Flow.dstPort same)
  · intro ports
    refine ⟨fe, event, arrival, classified, handled, parsed, ?_⟩
    rw [reported, counted, ports]
    rfl

/-- The paths agree on a frame that is neither excluded nor local if the classifier can address twenty bytes of IP header,
and the ports follow upon these: there are no options, or the first four bytes of them are the ports. -/
theorem capture_paths_agree_iff (table : UnicodeCase) (r : Reporter) (ts : UInt64) (padding : Bytes)
    (carries : Carries skb header segment.protocol (segment.bytes ++ payload))
    (admitted : ex excluded (hook.tested header).word = false)
    (src : header.src ≠ ⟨127, 0, 0, 1⟩) (dst : header.dst ≠ ⟨127, 0, 0, 1⟩) :
    PathsAgree table r hook excluded ts skb padding ↔
      34 ≤ skb.linear.length ∧ ∀ word ∈ header.options.head?, word.toList = segment.bytes.take 4 := by
  by_cases complete : 34 ≤ skb.linear.length
  · rw [pathsAgree_iff_ports table r ts padding carries complete admitted src dst, ports_found_iff carries,
      first_option_iff carries]
    exact (and_iff_right complete).symm
  · constructor
    · rintro ⟨fe, event, arrival, classified, -⟩
      obtain ⟨dir, nothing⟩ := hook_classifies carries hook excluded ts
      rw [if_neg (fun both => complete both.1), classified] at nothing
      cases nothing
    · intro both
      exact absurd both.1 complete

end

theorem udpSkb_segment (header : Ipv4Header) :
    Carries (udpSkb header) header (Segment.udp ⟨5000, 53, 8, 0⟩).protocol ((Segment.udp ⟨5000, 53, 8, 0⟩).bytes ++ []) :=
  udpSkb_carries header

theorem plain_datagram_agrees : PathsAgree caseless ⟨.unix 0, ascii "p"⟩ .ingress ∅ 7 (udpSkb sampleIpv4) [] := by
  apply (capture_paths_agree_iff caseless _ 7 [] (udpSkb_segment sampleIpv4) rfl (by decide) (by decide)).mpr
  exact ⟨udpSkb_complete sampleIpv4, fun word first => by cases first⟩

theorem optionIpv4_fits : ([#v[1, 1, 1, 1]] : List (Vector UInt8 4)).length ≤ 10 := by decide

/-- A header with one word of options, all of them without operation. -/
def optionIpv4 : Ipv4Header := { sampleIpv4 with options := [#v[1, 1, 1, 1]], fits := optionIpv4_fits }

/-- The event has 257 for both ports. -/
theorem datagram_with_options_differs :
    ¬ PathsAgree caseless ⟨.unix 0, ascii "p"⟩ .ingress ∅ 7 (udpSkb optionIpv4) [] := by
  intro agree
  have found := (pathsAgree_iff_ports caseless _ 7 [] (udpSkb_segment optionIpv4) (udpSkb_complete optionIpv4) rfl
    (by decide) (by decide)).mp agree
  have read := (first_option_iff (udpSkb_segment optionIpv4)).mp ((ports_found_iff (udpSkb_segment optionIpv4)).mp found)
  exact absurd (read _ rfl) (by decide)

end StbEbpf.Agent
