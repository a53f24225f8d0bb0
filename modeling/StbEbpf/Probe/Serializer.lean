import StbEbpf.Lib.Memory
import StbEbpf.Probe.Common

/-! The JSON serializer of `src/serializer.c`. `snprintf` returns the length of the whole text. -/

namespace StbEbpf.Probe
open CText Memory

def flowEventText (event : FlowEvent) (probeId : CStr) : Bytes :=
  ascii "\x7b\"timestamp\":" ++ decimal event.timestampNs.toNat ++
  ascii ",\"probe_id\":\"" ++ probeId.bytes ++
  ascii "\",\"category\":\"" ++ event.category.bytes ++
  ascii "\",\"event_type\":\"" ++ event.eventType.bytes ++
  ascii "\",\"src_ip\":\"" ++ (ipToStr event.srcIp).bytes ++
  ascii "\",\"dst_ip\":\"" ++ (ipToStr event.dstIp).bytes ++
  ascii "\",\"src_port\":" ++ decimal event.srcPort.toNat ++
  ascii ",\"dst_port\":" ++ decimal event.dstPort.toNat ++
  ascii ",\"protocol\":\"" ++ event.protocol.bytes ++
  ascii "\",\"ip_version\":" ++ decimal event.ipVersion.toNat ++
  ascii ",\"tcp_flags\":" ++ decimal event.tcpFlags.toNat ++
  ascii ",\"pkt_len\":" ++ decimal event.pktLen.toNat ++
  ascii ",\"bytes\":" ++ decimal event.bytes.toNat ++
  ascii ",\"packets\":" ++ decimal event.packets.toNat ++
  ascii ",\"latency_us\":" ++ decimal event.latencyUs.toNat ++
  ascii ",\"bandwidth_bps\":" ++ decimal event.bandwidthBps.toNat ++
  ascii ",\"retransmits\":" ++ decimal event.retransmits.toNat ++
  ascii ",\"dup_acks\":" ++ decimal event.dupAcks.toNat ++
  ascii ",\"anomaly\":" ++ decimal event.anomaly.toNat ++
  ascii ",\"payload_type\":" ++ decimal event.payloadType.toNat ++
  ascii ",\"pid\":" ++ decimal event.pid.toNat ++
  ascii ",\"service\":\"" ++ event.service.bytes ++
  ascii "\",\"details\":\"" ++ event.details.bytes ++
  ascii "\",\"tags\":\"" ++ event.tags.bytes ++ ascii "\"\x7d"

def hostMetricText (metric : HostMetric) (probeId : CStr) : Bytes :=
  ascii "\x7b\"timestamp\":" ++ decimal metric.timestampNs.toNat ++
  ascii ",\"probe_id\":\"" ++ probeId.bytes ++
  ascii "\",\"category\":\"metrics\",\"event_type\":\"host_metrics\",\"cpu\":" ++ fixed1 metric.cpuPercent ++
  ascii ",\"mem\":" ++ fixed1 metric.memoryPercent ++
  ascii ",\"disk\":" ++ fixed1 metric.diskPercent ++
  ascii ",\"net_rx\":" ++ decimal metric.netRxBytes.toNat ++
  ascii ",\"net_tx\":" ++ decimal metric.netTxBytes.toNat ++ ascii "\x7d"

/-- The output array and the two locals of `serialize_batch`. -/
structure BatchOut where
  output : Cells
  written : Nat
  first : Bool

namespace BatchOut

def put (o : BatchOut) (byte : UInt8) : BatchOut :=
  { o with output := o.output.store o.written byte, written := o.written + 1 }

def comma (o : BatchOut) : BatchOut := if o.first then o else o.put 44

/-- `snprintf(output + written, output_size - written, ...)`. -/
def print (o : BatchOut) (size : Nat) (text : Bytes) : Int × BatchOut :=
  (text.length, { o with output := o.output.storeBytes o.written (stored (size - o.written) text) })

end BatchOut

def serializeFlowEvent (event : FlowEvent) (probeId : CStr) (o : BatchOut) (size : Nat) : Int × BatchOut :=
  o.print size (flowEventText event probeId)

def serializeHostMetric (metric : HostMetric) (probeId : CStr) (o : BatchOut) (size : Nat) : Int × BatchOut :=
  o.print size (hostMetricText metric probeId)

/-- The event loop of `serialize_batch`. -/
def serializeEvents (size : Nat) (probeId : CStr) : List FlowEvent → BatchOut → BatchOut
  | [], o => o
  | event :: rest, o =>
    if o.written < size - 2 then
      match serializeFlowEvent event probeId o.comma size with
      | (ret, o) =>
        if ret < 0 then o
        else if ret ≥ (size : Int) - o.written then { o with written := size - 2 }
        else serializeEvents size probeId rest { o with written := o.written + ret.toNat, first := false }
    else o

def serializeMetric (size : Nat) (probeId : CStr) (metric : Option HostMetric) (o : BatchOut) : BatchOut :=
  match metric with
  | none => o
  | some metric =>
    if o.written < size - 2 then
      match serializeHostMetric metric probeId o.comma size with
      | (ret, o) => if ret > 0 then { o with written := o.written + ret.toNat, first := false } else o
    else o

/-- The array after the call and the returned length, which is the final `written`. -/
def serializeBatch (events : List FlowEvent) (metric : Option HostMetric) (probeId : CStr) (size : Nat) :
    BatchOut :=
  let o : BatchOut := BatchOut.put ⟨.empty, 0, true⟩ 91
  let o := serializeMetric size probeId metric (serializeEvents size probeId events o)
  let o := o.put 93
  { o with output := o.output.store o.written 0 }

end StbEbpf.Probe
