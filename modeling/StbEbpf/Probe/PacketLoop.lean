import StbEbpf.Probe.Anomaly
import StbEbpf.Probe.EventBuffer
import StbEbpf.Probe.HeaderOffsets

/-!
The raw-packet loop of `main.c`: what it does with one accepted frame. Three events are made of it: the enriched `flow`,
`flow_check` for the detector, and the one that `flow_tracker_update_single` appends to the tracker's buffer.
-/

namespace StbEbpf.Probe
open CText Access

/-- The clock readings taken for one frame. -/
structure FrameClock where
  received : UInt64
  updated : UInt64
  activated : UInt64
  checked : UInt64
  anomaly : UInt64

structure LoopState where
  tracker : TrackerState
  anomaly : AnomalyDetector

def PktEvent.flowKey (pkt : PktEvent) : FlowKey where
  srcIp := pkt.srcIp
  dstIp := pkt.dstIp
  srcPort := pkt.srcPort
  dstPort := pkt.dstPort
  protocol := pkt.protocol
  ipVersion := pkt.ipVersion

def markRetransmit (seqNum : UInt32) (flow : FlowEvent) : FlowEvent :=
  { flow with
    retransmits := 1
    eventType := .strncpy (ascii "retransmit")
    tags := .strncpy (ascii "tcp,retransmit")
    details := .snprintf (ascii "tcp_retransmit:seq=" ++ decimal seqNum.toNat) }

/-- The retransmission check of a TCP frame and what it does to the enriched event. -/
def checkSegment (clock : FrameClock) (pkt : PktEvent) (segment : Option TcpSegment) (tracker : TrackerState)
    (flow : FlowEvent) : TrackerState × FlowEvent :=
  match segment with
  | none => (tracker, flow)
  | some segment =>
    let check := flowTrackerCheckTcpRetransmit tracker.ft tracker.statics clock.checked pkt.flowKey segment.seqNum
      segment.payloadLen segment.tcpFlags
    let flow := if check.isRetransmit then markRetransmit segment.seqNum flow else flow
    let flow := if check.isDupAck then { flow with dupAcks := 1 } else flow
    (⟨check.ft, check.statics⟩, flow)

structure FrameOutcome where
  flow : FlowEvent
  check : AnomalyCheck
  next : LoopState

/-- One pass of the loop; `none` when the frame is not accepted. -/
def processFrame (probeId : CStr) (initial : HttpBuf) (clock : FrameClock) (frame : Bytes) (s : LoopState) :
    Checked (Option FrameOutcome) := do
  match ← analyzeFrame frame clock.received probeId initial with
  | none => return none
  | some { pkt, flow, segment } =>
    let tracker := s.tracker.step
      (.updateSingle clock.updated clock.activated pkt.flowKey pkt.pktLen.toUInt64 probeId)
    let enriched := checkSegment clock pkt segment tracker flow
    let check := anomalyCheckFlow s.anomaly clock.anomaly (packetToFlowEvent pkt probeId)
    return some { flow := enriched.2, check, next := ⟨enriched.1, check.ad⟩ }

/-- The event carries the result of the analysis. -/
structure Carries (event flow : FlowEvent) (verdict : UInt8) : Prop where
  category : event.category = flow.category
  eventType : event.eventType = flow.eventType
  service : event.service = flow.service
  tags : event.tags = flow.tags
  details : event.details = flow.details
  tcpFlags : event.tcpFlags = flow.tcpFlags
  ipVersion : event.ipVersion = flow.ipVersion
  pktLen : event.pktLen = flow.pktLen
  retransmits : event.retransmits = flow.retransmits
  anomaly : event.anomaly = verdict

/-! ### The enriched event -/

theorem markHttp_ipVersion (pkt : PktEvent) (flow : FlowEvent) : (pkt.markHttp flow).ipVersion = flow.ipVersion := by
  unfold PktEvent.markHttp
  split_ifs <;> rfl

theorem packetToFlowEvent_ipVersion (pkt : PktEvent) (probeId : CStr) :
    (packetToFlowEvent pkt probeId).ipVersion = pkt.ipVersion := by
  unfold packetToFlowEvent
  dsimp only
  split
  · rfl
  · split
    · split <;> rfl
    · split
      · rfl
      · split_ifs <;> exact markHttp_ipVersion pkt _

/-- The parser leaves the IP version of the event as it was. -/
def KeepsVersion (flow : FlowEvent) (m : Checked FlowEvent) : Prop :=
  Yields m fun result => result.ipVersion = flow.ipVersion

theorem parseDnsPayload_version (payload : Bytes) (flow : FlowEvent) (isReply : Bool) :
    KeepsVersion flow (parseDnsPayload payload flow isReply) := by
  unfold KeepsVersion parseDnsPayload
  split
  · exact yields_pure rfl
  · apply yields_next
    intro header
    dsimp only
    split
    · exact yields_pure rfl
    · split
      · apply yields_next
        intro d
        apply yields_next
        intro name
        split
        · apply yields_next
          intro high
          apply yields_next
          intro low
          exact yields_pure rfl
        · exact yields_pure rfl
      · exact yields_pure rfl

theorem parseHttpPayload_version (initial : HttpBuf) (payload : Bytes) (flow : FlowEvent) (isResponse : Bool) :
    KeepsVersion flow (parseHttpPayload initial payload flow isResponse) := by
  unfold KeepsVersion parseHttpPayload
  split
  · exact yields_pure rfl
  · iterate 3
      apply yields_next
      intro buf
    split
    · exact response_version _
    · exact request_version _
where
  response_version (buf : Bytes) : KeepsVersion flow (parseHttpResponse buf flow) := by
    apply yields_next
    intro head
    split
    · iterate 5
        apply yields_next
        intro part
      exact yields_pure rfl
    · exact yields_pure rfl
  request_version (buf : Bytes) : KeepsVersion flow (parseHttpRequest buf flow) := by
    unfold KeepsVersion parseHttpRequest
    iterate 6
      apply yields_next
      intro part
    exact yields_pure rfl

theorem parseDnsFrame_version (frame : Bytes) (pkt : PktEvent) (flow : FlowEvent) :
    KeepsVersion flow (parseDnsFrame frame pkt flow) := by
  unfold KeepsVersion parseDnsFrame
  split
  · apply yields_next
    intro offset
    split
    · exact parseDnsPayload_version _ _ _
    · exact yields_pure rfl
  · exact yields_pure rfl

theorem parseHttpFrame_version (initial : HttpBuf) (frame : Bytes) (pkt : PktEvent) (flow : FlowEvent) :
    KeepsVersion flow (parseHttpFrame initial frame pkt flow) := by
  unfold KeepsVersion parseHttpFrame
  split
  · apply yields_next
    intro offset
    split
    · apply yields_next
      intro byte
      dsimp only
      split
      · exact parseHttpPayload_version _ _ _ _
      · exact yields_pure rfl
    · exact yields_pure rfl
  · exact yields_pure rfl

/-- The analysis of an accepted frame goes through and keeps its IP version. -/
theorem analyzeFrame_accepted {frame : Bytes} {timestampNs : UInt64} {pkt : PktEvent} (probeId : CStr)
    (initial : HttpBuf)
    (accepted : packetParseRaw frame { timestampNs, pktLen := UInt16.ofNat frame.length } = .ok (some pkt)) :
    ∃ flow segment, analyzeFrame frame timestampNs probeId initial = .ok (some ⟨pkt, flow, segment⟩) ∧
      flow.ipVersion = pkt.ipVersion := by
  obtain ⟨dns, dnsDone, -⟩ := parseDnsFrame_completes frame pkt (packetToFlowEvent pkt probeId)
  obtain ⟨http, httpDone, -⟩ := parseHttpFrame_completes initial frame pkt dns
  obtain ⟨segment, segmentDone, -⟩ := extractTcpSeqNum_completes frame pkt
  refine ⟨http, segment, ?_, ?_⟩
  · unfold analyzeFrame
    rw [accepted, ok_bind]
    dsimp only
    rw [dnsDone, ok_bind, httpDone, ok_bind, segmentDone]
    rfl
  · calc http.ipVersion
      _ = dns.ipVersion := parseHttpFrame_version _ _ _ _ _ httpDone
      _ = (packetToFlowEvent pkt probeId).ipVersion := parseDnsFrame_version _ _ _ _ dnsDone
      _ = pkt.ipVersion := packetToFlowEvent_ipVersion pkt probeId

theorem checkSegment_version (clock : FrameClock) (pkt : PktEvent) (segment : Option TcpSegment)
    (tracker : TrackerState) (flow : FlowEvent) :
    (checkSegment clock pkt segment tracker flow).2.ipVersion = flow.ipVersion := by
  unfold checkSegment markRetransmit
  cases segment with
  | none => rfl
  | some segment =>
    dsimp only
    split_ifs <;> rfl

theorem checkSegment_appends (clock : FrameClock) (pkt : PktEvent) (segment : Option TcpSegment)
    (tracker : TrackerState) (flow : FlowEvent) :
    Appends [] tracker.ft (checkSegment clock pkt segment tracker flow).1.ft := by
  cases segment with
  | none => exact appends_nothing rfl rfl
  | some segment => exact checkTcpRetransmit_appends _ _ _ _ _ _ _

/-! ### The appended event -/

/-- The event that `flow_tracker_update_single` makes of the frame. -/
def appendedEvent (probeId : CStr) (clock : FrameClock) (pkt : PktEvent) : FlowEvent :=
  flowEvent clock.updated (.strncpy probeId.bytes) pkt.flowKey pkt.pktLen.toUInt64

theorem processFrame_accepted {clock : FrameClock} {frame : Bytes} {pkt : PktEvent} (probeId : CStr)
    (initial : HttpBuf) (s : LoopState)
    (accepted :
      packetParseRaw frame { timestampNs := clock.received, pktLen := UInt16.ofNat frame.length } = .ok (some pkt))
    (room : (findRecord s.tracker.ft pkt.flowKey clock.activated).1.isSome = true) :
    ∃ outcome, processFrame probeId initial clock frame s = .ok (some outcome) ∧
      outcome.flow.ipVersion = pkt.ipVersion ∧
      Appends [appendedEvent probeId clock pkt] s.tracker.ft outcome.next.tracker.ft := by
  obtain ⟨flow, segment, analyzed, version⟩ := analyzeFrame_accepted probeId initial accepted
  have updated := step_appends s.tracker
    (.updateSingle clock.updated clock.activated pkt.flowKey pkt.pktLen.toUInt64 probeId) nofun
  rw [offered, offeredSingle, if_pos room] at updated
  unfold processFrame
  rw [analyzed, ok_bind]
  refine ⟨_, rfl, ?_, ?_⟩
  · exact (checkSegment_version clock pkt segment _ flow).trans version
  · exact updated.trans (checkSegment_appends clock pkt segment _ flow)

/-- No frame's analysis reaches the event buffer: the event appended for it never carries the result. -/
theorem processFrame_never_carries (probeId : CStr) (initial : HttpBuf) (clock : FrameClock) (frame : Bytes)
    (pkt : PktEvent) (s : LoopState)
    (accepted :
      packetParseRaw frame { timestampNs := clock.received, pktLen := UInt16.ofNat frame.length } = .ok (some pkt))
    (room : (findRecord s.tracker.ft pkt.flowKey clock.activated).1.isSome = true) :
    ∃ outcome, processFrame probeId initial clock frame s = .ok (some outcome) ∧
      (∀ event, outcome.next.tracker.ft.events = s.tracker.ft.events ++ [event] →
        ¬ Carries event outcome.flow outcome.check.verdict) ∧
      (s.tracker.ft.events.length < s.tracker.ft.maxEvents →
        ∃ event, outcome.next.tracker.ft.events = s.tracker.ft.events ++ [event]) := by
  obtain ⟨outcome, processed, version, appends⟩ := processFrame_accepted probeId initial s accepted room
  refine ⟨outcome, processed, ?_, fun left => ⟨_, appends.arrive left⟩⟩
  intro event appended carries
  have same := appends.kept.symm.trans appended
  -- the buffer holds one event more, so it is the one offered
  have kept := List.append_cancel_left same
  have offered : event ∈ [appendedEvent probeId clock pkt] := by
    apply List.mem_of_mem_take
    rw [kept]
    exact List.mem_singleton_self event
  have one := List.mem_singleton.mp offered
  have zero : event.ipVersion = 0 := by rw [one]; rfl
  have stated : pkt.ipVersion = 0 := by rw [← version, ← carries.ipVersion, zero]
  rcases (accepted_of_parsed accepted).version with four | six
  · rw [four] at stated
    exact absurd stated (by decide)
  · rw [six] at stated
    exact absurd stated (by decide)

/-- The probe as it starts, with a table of one flow. -/
def startedLoop : LoopState := ⟨⟨flowTrackerCreate 1, {}⟩, anomalyDetectorCreate⟩

def emptyBuf : HttpBuf := ⟨List.replicate 2048 0, List.length_replicate⟩

/-- An echo request. -/
def echoFrame : Bytes := ipv4Frame sampleLink sampleIpv4 ⟨0, Nat.zero_lt_succ _⟩ (.icmp ⟨8, 0, 0, 1⟩) []

def echoPkt : PktEvent where
  srcIp := 0x0A01A8C0
  dstIp := 0x22D8B85D
  srcPort := 0
  dstPort := 8
  protocol := 1
  pktLen := 42
  ipVersion := 4

theorem echo_never_carries :
    ∃ outcome, processFrame ⟨[], by decide⟩ emptyBuf ⟨0, 0, 0, 0, 0⟩ echoFrame startedLoop = .ok (some outcome) ∧
      ∃ event, outcome.next.tracker.ft.events = [event] ∧ ¬ Carries event outcome.flow outcome.check.verdict := by
  obtain ⟨outcome, processed, never, appended⟩ :=
    processFrame_never_carries ⟨[], by decide⟩ emptyBuf ⟨0, 0, 0, 0, 0⟩ echoFrame echoPkt startedLoop rfl rfl
  obtain ⟨event, events⟩ := appended (by decide)
  exact ⟨outcome, processed, event, events, never event events⟩

-- The analysis finds an echo request; the buffer gets a plain network flow without IP version or length.
theorem echo_appended_as_flow :
    ∃ outcome, processFrame ⟨[], by decide⟩ emptyBuf ⟨0, 0, 0, 0, 0⟩ echoFrame startedLoop = .ok (some outcome) ∧
      ∃ event, outcome.next.tracker.ft.events = [event] ∧
        outcome.flow.category = .strncpy CAT_ICMP ∧ event.category = .strncpy CAT_NETWORK ∧
        outcome.flow.ipVersion = 4 ∧ event.ipVersion = 0 ∧
        outcome.flow.pktLen = 42 ∧ event.pktLen = 0 ∧
        ¬ Carries event outcome.flow outcome.check.verdict := by
  refine ⟨_, rfl, _, rfl, rfl, rfl, rfl, rfl, rfl, rfl, fun carries => ?_⟩
  exact absurd carries.pktLen (by decide)

/-! ### The two sources of a flow -/

/-- An entry of `/proc/net` for the connection of an outgoing segment; what else it holds is taken from `entry`. -/
def socketOf (header : Ipv4Header) (segment : Segment) (entry : ProcNetEntry) : ProcNetEntry :=
  { entry with
    localIp := header.src.word, localPort := segment.srcPort
    remoteIp := header.dst.word, remotePort := segment.dstPort
    protocol := segment.protocol }

/-- Whatever the table holds, a record found for one key is not the one found for the other after it. -/
def NeverShared (key other : FlowKey) : Prop :=
  ∀ (ft t : FlowTracker) (now later : UInt64) (i j : Nat), findRecord ft key now = (some i, t) →
    (findRecord t other later).1 = some j → i ≠ j

/-- The key that the packet loop makes of a frame says which IP version it is, the key made of the socket's entry does
not; so the two never name one record. -/
theorem sources_never_share_record (link : Link) (header : Ipv4Header) (segment : Segment) (payload : Bytes)
    (timestampNs : UInt64) (pktLen : UInt16) (entry : ProcNetEntry) :
    ∃ pkt, packetParseRaw (ipv4Frame link header 0 (.segment segment) payload) { timestampNs, pktLen } = .ok (some pkt) ∧
      { pkt.flowKey with ipVersion := 0 } = (socketOf header segment entry).flowKey ∧
      pkt.flowKey ≠ (socketOf header segment entry).flowKey ∧
      NeverShared pkt.flowKey (socketOf header segment entry).flowKey ∧
      NeverShared (socketOf header segment entry).flowKey pkt.flowKey := by
  refine ⟨_, packetParseRaw_undoes_encoding link header 0 (.segment segment) payload timestampNs pktLen, rfl, ?_⟩
  generalize raw : PktEvent.flowKey _ = key
  have apart : key ≠ (socketOf header segment entry).flowKey := by
    intro same
    have four : key.ipVersion = 4 := by
      rw [← raw]
      rfl
    rw [same] at four
    exact absurd four (show (0 : UInt8) ≠ 4 by decide)
  exact ⟨apart, fun _ _ _ _ _ _ first second => findRecord_apart apart first second,
    fun _ _ _ _ _ _ first second => findRecord_apart apart.symm first second⟩

def webSocketEntry : ProcNetEntry where
  localIp := 0x0A01A8C0
  localPort := 40000
  remoteIp := 0x22D8B85D
  remotePort := 80
  protocol := 6
  rxQueue := 0
  txQueue := 0
  state := 1

theorem web_connection_keys_differ :
    ∃ pkt, packetParseRaw (ipv4Frame sampleLink sampleIpv4 0
        (.segment (.tcp ⟨40000, 80, 1, 1, 0x50, 0x10, 512, 0, 0, []⟩)) []) {} = .ok (some pkt) ∧
      (pkt.srcIp = webSocketEntry.localIp ∧ pkt.srcPort = webSocketEntry.localPort ∧
        pkt.dstIp = webSocketEntry.remoteIp ∧ pkt.dstPort = webSocketEntry.remotePort ∧
        pkt.protocol = webSocketEntry.protocol) ∧
      pkt.flowKey ≠ webSocketEntry.flowKey := by
  refine ⟨_, rfl, ?_, ?_⟩ <;> decide

end StbEbpf.Probe
