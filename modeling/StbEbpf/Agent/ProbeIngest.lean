import StbEbpf.Agent.EventCodec
import StbEbpf.Probe.WireFormat

/-!
The ingest handler at the other end of the C probe. `serialize_flow_event` prints the time of an event as a number of
nanoseconds, and the handler decodes it into a `time.Time`.
-/

namespace StbEbpf.Agent
open CText Json Strconv
open StbEbpf.Probe (FlowEvent HostMetric batchHead batchText batchTexts dnsQuery eventMembers flowEventText
  flowEventText_tree ipToStr joinTexts serializeBatch serializeBatch_text stbProbe)

/-- The fields that both ends have. -/
structure SameEvent (probeId : CStr) (event : FlowEvent) (e : Event) : Prop where
  probe : e.probeId = probeId.bytes
  category : e.category = event.category.bytes
  eventType : e.eventType = event.eventType.bytes
  srcIp : e.srcIp = (ipToStr event.srcIp).bytes
  dstIp : e.dstIp = (ipToStr event.dstIp).bytes
  srcPort : e.srcPort = event.srcPort
  dstPort : e.dstPort = event.dstPort
  protocol : e.protocol = event.protocol.bytes
  bytes : e.bytes = event.bytes
  packets : e.packets = event.packets
  service : e.service = event.service.bytes
  details : e.details = event.details.bytes
  tags : e.tags = event.tags.bytes

/-- The handler decodes the body, and gets the events. A host metric comes after them. -/
def IngestYields (body : Bytes) (probeId : CStr) (events : List FlowEvent) : Prop :=
  ∃ decoded, decodeIngest body = some decoded ∧
    List.Forall₂ (fun event received => ∃ e, received = some e ∧ SameEvent probeId event e) events
      (decoded.take events.length)

theorem decodeMember_number_time (e : Event) (n : Numeral) : e.decodeMember (Field.timestamp.key, .number n) = none := by
  unfold Event.decodeMember
  rw [unquote_plain Field.timestamp.key_plain]
  dsimp only
  rw [Field.find_key]
  rfl

theorem decodeEvent_number_time (n : Numeral) (members : List (Bytes × Value)) :
    decodeEvent (.object ((Field.timestamp.key, .number n) :: members)) = none := by
  rw [decodeEvent, List.foldlM_cons, decodeMember_number_time]
  rfl

/-- Every batch with an event in it starts with the time of that event. -/
theorem batchText_starts (event : FlowEvent) (events : List FlowEvent) (metric : Option HostMetric) (probeId : CStr) :
    ∃ more, batchText (event :: events) metric probeId = 91 :: 123 :: 34 :: (Field.timestamp.key ++ 34 :: 58 ::
      ((Value.number (formatUint event.timestampNs.toNat)).text ++ 44 :: more)) := by
  obtain ⟨name, value, members, columns⟩ : ∃ name value members, eventMembers probeId event =
      (Field.timestamp.key, .number (formatUint event.timestampNs.toNat)) :: (name, value) :: members := ⟨_, _, _, rfl⟩
  have object := flowEventText_tree event probeId
  rw [columns, Value.text, membersText] at object
  refine ⟨34 :: name ++ 34 :: 58 :: value.text ++ membersText members ++
    joinTexts false (batchTexts events metric probeId) ++ [93], ?_⟩
  rw [batchText, batchHead]
  show 91 :: joinTexts true (flowEventText event probeId :: batchTexts events metric probeId) ++ [93] = _
  rw [joinTexts, object]
  simp

theorem decodeIngest_batch {events : List FlowEvent} (some_ : events ≠ []) (metric : Option HostMetric)
    (probeId : CStr) : decodeIngest (batchText events metric probeId) = none := by
  obtain ⟨event, rest, rfl⟩ := List.exists_cons_of_ne_nil some_
  obtain ⟨more, text⟩ := batchText_starts event rest metric probeId
  have enclosed : Enclosed Field.timestamp.key :=
    enclosed_of_plain fun byte member => (Field.timestamp.key_plain byte member).1
  have starts := readFirst_starts enclosed (fun depth => .number depth (formatUint_ok event.timestampNs.toNat)) more
  rw [text]
  unfold decodeIngest
  rcases starts with unread | ⟨members, items, read⟩
  · rw [unread]
  · rw [read]
    show List.mapM decodeEvent (_ :: items) = none
    rw [List.mapM_cons, decodeEvent_number_time]
    rfl

/-- No batch with an event in it gets through. -/
theorem ingest_rejects_probe_events (events : List FlowEvent) (metric : Option HostMetric) (probeId : CStr) (size : Nat)
    (some_ : events ≠ []) (fits : (batchText events metric probeId).length < size) :
    let r := serializeBatch events metric probeId size
    decodeIngest (r.output.read r.written) = none ∧ ¬ IngestYields (r.output.read r.written) probeId events := by
  intro r
  have rejected : decodeIngest (r.output.read r.written) = none := by
    rw [(serializeBatch_text events metric probeId fits).2]
    exact decodeIngest_batch some_ metric probeId
  refine ⟨rejected, ?_⟩
  rintro ⟨decoded, accepted, -⟩
  rw [rejected] at accepted
  cases accepted

theorem dnsQuery_fits : (batchText [dnsQuery] none stbProbe).length < 8192 := by decide +kernel

theorem ingest_rejects_dns_query :
    let r := serializeBatch [dnsQuery] none stbProbe 8192
    (batchText [dnsQuery] none stbProbe).length < 8192 ∧
    decodeIngest (r.output.read r.written) = none ∧
      ¬ IngestYields (r.output.read r.written) stbProbe [dnsQuery] := by
  exact ⟨dnsQuery_fits, ingest_rejects_probe_events [dnsQuery] none stbProbe 8192 (by simp) dnsQuery_fits⟩

theorem dns_query_not_ingested :
    let r := serializeBatch [dnsQuery] none stbProbe 8192
    (batchText [dnsQuery] none stbProbe).length < 8192 ∧
    ¬ IngestYields (r.output.read r.written) stbProbe [dnsQuery] := by
  refine ⟨dnsQuery_fits, ?_⟩
  rintro ⟨decoded, accepted, -⟩
  rw [(serializeBatch_text _ none _ dnsQuery_fits).2, decodeIngest_batch (by simp)] at accepted
  cases accepted

end StbEbpf.Agent
