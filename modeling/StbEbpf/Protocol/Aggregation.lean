import StbEbpf.Lib.Tally
import StbEbpf.Agent.Analyzers
import StbEbpf.Agent.TraceHandlers
import StbEbpf.Protocol.Collector

/-!
The aggregation of flows in `internal/collector/protocol.go`. A call of `processIPv4` parses its packet on its own and
then runs one or two sections under the mutex; a call of `flush` runs one and emits what it took away. Each section is
one step, and any call in progress may take the next one.
-/

namespace StbEbpf.Protocol.ProtocolCollector
open CText Access NetworkOrder
open StbEbpf.Agent (Time Event GoMap)

/-! ### Parsing a packet -/

/-- Go's case table: no rune beyond ASCII has a lower case that starts with a letter of `host`. -/
structure UnicodeCase extends GoStrings.CaseTable where
  apart : ∀ w, Utf8.isWide w = true → ∀ byte ∈ ascii "host", (lower w).head? ≠ some byte

/-- A table that leaves every rune of more than one byte as it is. -/
def caseless : UnicodeCase where
  lower := id
  upper := id
  apart w wide byte member head := by
    have plain : (ascii "host").all (· < 0x80) = true := by decide
    have low : byte < 0x80 := by simpa using List.all_eq_true.mp plain byte member
    exact Utf8.isWide_high wide byte (List.mem_of_mem_head? head) low

/-- What a flow is known by. -/
structure Flow where
  srcIP : Bytes
  dstIP : Bytes
  srcPort : UInt16
  dstPort : UInt16
  protocol : Bytes
  deriving DecidableEq, Repr

/-- `"%s:%d->%s:%d:%s"`. -/
def Flow.key (flow : Flow) : Bytes :=
  flow.srcIP ++ 58 :: (decimal flow.srcPort.toNat ++ 45 :: 62 :: (flow.dstIP ++ 58 :: (decimal flow.dstPort.toNat ++
    58 :: flow.protocol)))

inductive AppRecord where
  | http (record : HTTPRecord)
  | dns (record : DNSRecord)
  deriving DecidableEq, Repr

/-- What the switch over the protocol finds out. -/
structure Transport where
  protoName : Bytes
  srcPort : UInt16 := 0
  dstPort : UInt16 := 0
  tcpFlags : UInt8 := 0
  record : Option AppRecord := none

/-- A packet that is not rejected; `size` is its length. -/
structure Arrival where
  flow : Flow
  size : Nat
  tcpFlags : UInt8
  record : Option AppRecord

/-- `net.IP(slice).String()` of four bytes. -/
def ipString : Bytes → Bytes
  | [a, b, c, d] => Agent.dotted ⟨a, b, c, d⟩
  | _ => []

def isHTTPPort (port : UInt16) : Bool :=
  port = 80 ∨ port = 8080 ∨ port = 8000 ∨ port = 3000 ∨ port = 443 ∨ port = 8443 ∨ (8000 ≤ port ∧ port ≤ 9999)

namespace processIPv4

/-- Ports, flags and payload, if the header is complete. -/
def tcpHeader (payload : Bytes) (ihl : Nat) : Checked (UInt16 × UInt16 × UInt8 × Bytes) := do
  if payload.length < ihl + 20 then return (0, 0, 0, [])
  else
    let srcPort ← readWord16 payload ihl
    let dstPort ← readWord16 payload (ihl + 2)
    let tcpFlags ← readAt payload (ihl + 13)
    let offsetByte ← readAt payload (ihl + 12)
    let tcpDataOffset := ((offsetByte >>> 4) * 4).toNat
    return (srcPort, dstPort, tcpFlags, payload.drop (ihl + tcpDataOffset))

def udpHeader (payload : Bytes) (ihl : Nat) : Checked (UInt16 × UInt16) := do
  if payload.length < ihl + 8 then return (0, 0)
  else
    let srcPort ← readWord16 payload ihl
    let dstPort ← readWord16 payload (ihl + 2)
    return (srcPort, dstPort)

def httpRecord (table : UnicodeCase) (tcpPayload srcIP dstIP : Bytes) (srcPort dstPort : UInt16) :
    Checked (Option HTTPRecord) :=
  if isHTTPPort dstPort ∧ tcpPayload ≠ [] then parseHTTP table.toCaseTable tcpPayload srcIP dstIP srcPort dstPort
  else pure none

def dnsRecord (payload srcIP dstIP : Bytes) (ihl : Nat) (srcPort dstPort : UInt16) : Checked (Option DNSRecord) :=
  if (srcPort = 53 ∨ dstPort = 53) ∧ payload.length > ihl + 8 then parseDNS (payload.drop (ihl + 8)) srcIP dstIP
  else pure none

def tcp (table : UnicodeCase) (payload srcIP dstIP : Bytes) (ihl : Nat) : Checked Transport := do
  let (srcPort, dstPort, tcpFlags, tcpPayload) ← tcpHeader payload ihl
  let record ← httpRecord table tcpPayload srcIP dstIP srcPort dstPort
  return { protoName := ascii "TCP", srcPort, dstPort, tcpFlags, record := record.map .http }

def udp (payload srcIP dstIP : Bytes) (ihl : Nat) : Checked Transport := do
  let (srcPort, dstPort) ← udpHeader payload ihl
  let record ← dnsRecord payload srcIP dstIP ihl srcPort dstPort
  return { protoName := ascii "UDP", srcPort, dstPort, record := record.map .dns }

def transport (table : UnicodeCase) (payload srcIP dstIP : Bytes) (ihl : Nat) (protocol : UInt8) : Checked Transport :=
  if protocol = 6 then tcp table payload srcIP dstIP ihl
  else if protocol = 17 then udp payload srcIP dstIP ihl
  else if protocol = 1 then pure { protoName := ascii "ICMP" }
  else pure { protoName := ascii "IP" }

/-- All that a call does before it asks for the mutex; `none` for a packet that is rejected. -/
def parse (table : UnicodeCase) (payload : Bytes) : Checked (Option Arrival) := do
  if payload.length < 20 then return none
  else
    let versionIHL ← readAt payload 0
    let ihl := (versionIHL &&& 0x0F).toNat * 4
    if ihl > payload.length then return none
    else
      let protocol ← readAt payload 9
      let src ← readRange payload 12 4
      let dst ← readRange payload 16 4
      let srcIP := ipString src
      let dstIP := ipString dst
      if srcIP = ascii "127.0.0.1" ∨ dstIP = ascii "127.0.0.1" then return none
      else
        let part ← transport table payload srcIP dstIP ihl protocol
        return some
          { flow := { srcIP, dstIP, srcPort := part.srcPort, dstPort := part.dstPort, protocol := part.protoName }
            size := payload.length, tcpFlags := part.tcpFlags, record := part.record }

end processIPv4

/-! ### The maps and lists under the mutex -/

structure FlowRecord extends Flow where
  bytes : UInt64
  packets : UInt64
  synFlag : Bool
  finFlag : Bool
  rstFlag : Bool

def Arrival.syn (arrival : Arrival) : Bool := arrival.tcpFlags &&& 0x02 != 0
def Arrival.fin (arrival : Arrival) : Bool := arrival.tcpFlags &&& 0x01 != 0
def Arrival.rst (arrival : Arrival) : Bool := arrival.tcpFlags &&& 0x04 != 0

def FlowRecord.opened (arrival : Arrival) : FlowRecord :=
  { arrival.flow with
    bytes := UInt64.ofNat arrival.size, packets := 1
    synFlag := arrival.syn, finFlag := arrival.fin, rstFlag := arrival.rst }

def FlowRecord.grown (ag : FlowRecord) (arrival : Arrival) : FlowRecord :=
  { ag with
    bytes := ag.bytes + UInt64.ofNat arrival.size, packets := ag.packets + 1
    synFlag := ag.synFlag || arrival.syn, finFlag := ag.finFlag || arrival.fin, rstFlag := ag.rstFlag || arrival.rst }

abbrev Flows := GoMap Bytes FlowRecord

def aggregate (flows : Flows) (arrival : Arrival) : Flows :=
  match flows.lookup arrival.flow.key with
  | some ag => flows.insert arrival.flow.key (ag.grown arrival)
  | none => flows.insert arrival.flow.key (.opened arrival)

/-- The list that grows beyond 1000 records keeps its last 500. -/
def appendCapped {α : Type} (records : List α) (record : α) : List α :=
  let records := records ++ [record]
  if records.length > 1000 then records.drop (records.length - 500) else records

/-! ### Events -/

def flowEvent (probeId : Bytes) (now : Time) (ag : FlowRecord) : Event where
  timestamp := now
  probeId := probeId
  category := ascii "protocol"
  eventType := ascii "flow"
  srcIp := ag.srcIP
  dstIp := ag.dstIP
  srcPort := ag.srcPort
  dstPort := ag.dstPort
  protocol := ag.protocol
  bytes := ag.bytes
  packets := ag.packets

def httpEvent (probeId : Bytes) (now : Time) (hr : HTTPRecord) : Event where
  timestamp := now
  probeId := probeId
  category := ascii "protocol"
  eventType := ascii "http"
  srcIp := hr.srcIP
  dstIp := hr.dstIP
  srcPort := hr.srcPort
  dstPort := hr.dstPort
  protocol := ascii "HTTP"
  bytes := hr.bytes
  service := hr.host
  details := hr.method ++ 32 :: hr.url

def dnsEvent (probeId : Bytes) (now : Time) (dr : DNSRecord) : Event where
  timestamp := now
  probeId := probeId
  category := ascii "protocol"
  eventType := ascii "dns"
  srcIp := dr.srcIP
  dstIp := dr.dstIP
  srcPort := 53
  dstPort := 53
  protocol := ascii "DNS"
  details := dr.queryName
  tags := dr.queryType

/-! ### Calls in progress -/

/-- Where a call stands: a packet with a record of its own protocol, a packet before the section for the flows, a flush
before its section, or a flush with what it has not emitted yet. -/
inductive Call where
  | recording (arrival : Arrival) (record : AppRecord)
  | aggregating (arrival : Arrival)
  | flushing
  | emitting (now : Time) (flows : List FlowRecord) (https : List HTTPRecord) (dnss : List DNSRecord)
  | done

/-- `emitted` and `accepted` are history: the events that were written, and the packets that were not rejected. -/
structure Collector where
  flows : Flows := ∅
  httpReqs : List HTTPRecord := []
  dnsQs : List DNSRecord := []
  calls : List Call := []
  emitted : List Event := []
  accepted : List Arrival := []

inductive Action where
  | processIPv4 (payload : Bytes)
  | record (call : Nat)
  | aggregate (call : Nat)
  | flush
  | swap (call : Nat) (now : Time)
  | emit (call i : Nat)

def Arrival.call (arrival : Arrival) : Call :=
  match arrival.record with
  | some record => .recording arrival record
  | none => .aggregating arrival

namespace Collector

def accept (c : Collector) (arrival : Arrival) : Collector :=
  { c with accepted := c.accepted ++ [arrival], calls := c.calls ++ [arrival.call] }

def keep (c : Collector) (call : Nat) (arrival : Arrival) : AppRecord → Collector
  | .http record => { c with httpReqs := appendCapped c.httpReqs record, calls := c.calls.set call (.aggregating arrival) }
  | .dns record => { c with dnsQs := appendCapped c.dnsQs record, calls := c.calls.set call (.aggregating arrival) }

def count (c : Collector) (call : Nat) (arrival : Arrival) : Collector :=
  { c with flows := ProtocolCollector.aggregate c.flows arrival, calls := c.calls.set call .done }

def detach (c : Collector) (call : Nat) (now : Time) : Collector :=
  { c with
    flows := ∅, httpReqs := [], dnsQs := []
    calls := c.calls.set call (.emitting now (Tally.values c.flows) c.httpReqs c.dnsQs) }

/-- The next `WriteEvent` of a flush. The loop over a map goes in any order: `i` is the place of the next flow. -/
def write (c : Collector) (probeId : Bytes) (call i : Nat) (now : Time) (flows : List FlowRecord)
    (https : List HTTPRecord) (dnss : List DNSRecord) : Collector :=
  match flows, https, dnss with
  | ag :: rest, https, dnss =>
    match (ag :: rest)[i]? with
    | some next =>
      { c with
        emitted := c.emitted ++ [flowEvent probeId now next]
        calls := c.calls.set call (.emitting now ((ag :: rest).eraseIdx i) https dnss) }
    | none => c
  | [], hr :: https, dnss =>
    { c with
      emitted := c.emitted ++ [httpEvent probeId now hr], calls := c.calls.set call (.emitting now [] https dnss) }
  | [], [], dr :: dnss =>
    { c with emitted := c.emitted ++ [dnsEvent probeId now dr], calls := c.calls.set call (.emitting now [] [] dnss) }
  | [], [], [] => { c with calls := c.calls.set call .done }

def step (table : UnicodeCase) (probeId : Bytes) (c : Collector) : Action → Checked Collector
  | .processIPv4 payload => do
    match ← processIPv4.parse table payload with
    | some arrival => return c.accept arrival
    | none => return c
  | .record call =>
    match c.calls[call]? with
    | some (.recording arrival record) => pure (c.keep call arrival record)
    | _ => pure c
  | .aggregate call =>
    match c.calls[call]? with
    | some (.aggregating arrival) => pure (c.count call arrival)
    | _ => pure c
  | .flush => pure { c with calls := c.calls ++ [.flushing] }
  | .swap call now =>
    match c.calls[call]? with
    | some .flushing => pure (c.detach call now)
    | _ => pure c
  | .emit call i =>
    match c.calls[call]? with
    | some (.emitting now flows https dnss) => pure (c.write probeId call i now flows https dnss)
    | _ => pure c

def run (table : UnicodeCase) (probeId : Bytes) (c : Collector) (actions : List Action) : Checked Collector :=
  actions.foldlM (step table probeId) c

end Collector

end StbEbpf.Protocol.ProtocolCollector
