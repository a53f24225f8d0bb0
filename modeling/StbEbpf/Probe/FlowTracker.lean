import StbEbpf.Lib.Slots
import StbEbpf.Probe.Common

/-!
The flow table of `src/flow_tracker.c`. Clock readings are arguments: `ts` is the reading an
operation takes for itself and `now` the one `find_record` takes if it activates a slot.
-/

namespace StbEbpf.Probe
open CText

structure FlowRecord where
  key : FlowKey
  value : FlowValue
  prevRxQueue : UInt64
  prevTxQueue : UInt64
  active : Bool
  deriving DecidableEq, Repr

structure FlowTracker where
  records : List FlowRecord
  maxFlows : Nat
  events : List FlowEvent
  maxEvents : Nat
  activeCount : Int

def FlowRecord.zero : FlowRecord := ⟨⟨0, 0, 0, 0, 0, 0, (0, 0)⟩, {}, 0, 0, false⟩

def flowTrackerCreate (maxFlows : Nat) : FlowTracker where
  records := List.replicate maxFlows .zero
  maxFlows := maxFlows
  events := []
  maxEvents := maxFlows * 2
  activeCount := 0

-- The counters of the slot keep whatever the last flow left in them.
def FlowRecord.activate (key : FlowKey) (now : UInt64) (r : FlowRecord) : FlowRecord :=
  { r with key := key, active := true, value := { r.value with firstSeenNs := now } }

namespace FlowTracker

def lookup (ft : FlowTracker) (key : FlowKey) : Option Nat :=
  Slots.lookup FlowRecord.active FlowRecord.key ft.records key

def free (ft : FlowTracker) : Option Nat := Slots.free FlowRecord.active ft.records

def modifyRecord (ft : FlowTracker) (i : Nat) (f : FlowRecord → FlowRecord) : FlowTracker :=
  { ft with records := ft.records.modify i f }

def activate (ft : FlowTracker) (i : Nat) (key : FlowKey) (now : UInt64) : FlowTracker :=
  { ft.modifyRecord i (.activate key now) with activeCount := ft.activeCount + 1 }

end FlowTracker

def findRecord (ft : FlowTracker) (key : FlowKey) (now : UInt64) : Option Nat × FlowTracker :=
  match ft.lookup key with
  | some i => (some i, ft)
  | none =>
    match ft.free with
    | some i => (some i, ft.activate i key now)
    | none => (none, ft)

def addEvent (ft : FlowTracker) (ev : FlowEvent) : FlowTracker :=
  if ft.events.length < ft.maxEvents then { ft with events := ft.events ++ [ev] } else ft

def protocolName (protocol : UInt8) : CharBuf 8 :=
  if protocol = 6 then .strncpy PROTO_TCP
  else if protocol = 17 then .strncpy PROTO_UDP
  else if protocol = 1 then .strncpy PROTO_ICMP
  else .snprintf (decimal protocol.toNat)

def flowEvent (ts : UInt64) (probeId : CharBuf 64) (key : FlowKey) (bytes : UInt64) : FlowEvent where
  timestampNs := ts
  probeId := probeId
  category := .strncpy CAT_NETWORK
  eventType := .strncpy EVT_FLOW
  srcIp := key.srcIp
  dstIp := key.dstIp
  srcPort := key.srcPort
  dstPort := key.dstPort
  bytes := bytes
  packets := 1
  protocol := protocolName key.protocol
  tags := if isMulticast key.dstIp then .strncpy (ascii "iptv,multicast") else .zero
  service := if isMulticast key.dstIp then .strncpy (ascii "IPTV") else .zero

def ProcNetEntry.flowKey (entry : ProcNetEntry) : FlowKey where
  srcIp := entry.localIp
  dstIp := entry.remoteIp
  srcPort := entry.localPort
  dstPort := entry.remotePort
  protocol := entry.protocol

def queueDelta (reading prev : UInt64) : UInt64 := if reading ≥ prev then reading - prev else 0

def FlowRecord.deltaBytes (r : FlowRecord) (entry : ProcNetEntry) : UInt64 :=
  queueDelta entry.rxQueue r.prevRxQueue + queueDelta entry.txQueue r.prevTxQueue

def FlowRecord.account (entry : ProcNetEntry) (ts : UInt64) (r : FlowRecord) : FlowRecord :=
  { r with
    prevRxQueue := entry.rxQueue
    prevTxQueue := entry.txQueue
    value := { r.value with
      bytes := r.value.bytes + r.deltaBytes entry
      packets := r.value.packets + if r.deltaBytes entry > 0 then 1 else 0
      lastSeenNs := ts } }

def updateEntry (ft : FlowTracker) (ts now : UInt64) (entry : ProcNetEntry) : FlowTracker :=
  match findRecord ft entry.flowKey now with
  | (none, ft) => ft
  | (some i, ft) =>
    let delta := (ft.records[i]?.map (·.deltaBytes entry)).getD 0
    let ft := ft.modifyRecord i (.account entry ts)
    if delta > 0 then addEvent ft (flowEvent ts .zero entry.flowKey delta) else ft

-- `clock i` is the reading that `find_record` would take at entry `i`.
def updateEntries (ft : FlowTracker) (ts : UInt64) (clock : Nat → UInt64) :
    List ProcNetEntry → FlowTracker
  | [] => ft
  | entry :: rest => updateEntries (updateEntry ft ts (clock 0) entry) ts (fun i => clock (i + 1)) rest

def flowTrackerUpdate (ft : FlowTracker) (clock : Nat → UInt64) (entries : List ProcNetEntry) :
    FlowTracker :=
  updateEntries ft (clock 0) (fun i => clock (i + 1)) entries

def FlowRecord.accountSingle (bytes ts : UInt64) (r : FlowRecord) : FlowRecord :=
  { r with value := { r.value with
      bytes := r.value.bytes + bytes, packets := r.value.packets + 1, lastSeenNs := ts } }

def flowTrackerUpdateSingle (ft : FlowTracker) (ts now : UInt64) (key : FlowKey) (bytes : UInt64)
    (probeId : CStr) : FlowTracker :=
  match findRecord ft key now with
  | (none, ft) => ft
  | (some i, ft) =>
    addEvent (ft.modifyRecord i (.accountSingle bytes ts))
      (flowEvent ts (.strncpy probeId.bytes) key bytes)

-- A negative `max_events` gives a `memcpy` of negative size, which is undefined. No caller passes
-- one; the model copies nothing there.
def flowTrackerGetEvents (ft : FlowTracker) (maxEvents : Int) : Int × List FlowEvent :=
  let n := if (ft.events.length : Int) < maxEvents then (ft.events.length : Int) else maxEvents
  (n, ft.events.take n.toNat)

def flowTrackerFlush (ft : FlowTracker) : FlowTracker := { ft with events := [] }

def FlowRecord.stale (ts maxAgeNs : UInt64) (r : FlowRecord) : Bool :=
  r.active && decide (r.value.lastSeenNs > 0) && decide (ts - r.value.lastSeenNs > maxAgeNs)

def FlowRecord.evict (ts maxAgeNs : UInt64) (r : FlowRecord) : FlowRecord :=
  if r.stale ts maxAgeNs then { r with active := false } else r

def flowTrackerCleanup (ft : FlowTracker) (ts maxAgeNs : UInt64) : FlowTracker :=
  { ft with
    records := ft.records.map (.evict ts maxAgeNs)
    activeCount := ft.activeCount - ft.records.countP (·.stale ts maxAgeNs) }

/-- The two static variables of `flow_tracker_check_tcp_retransmit`, shared by all flows. The index
is an `int` in C; the model lets it count on. -/
structure AckStatics where
  lastAckPerFlow : Nat → UInt32 := fun _ => 0
  flowIdx : Nat := 0

structure RetransmitCheck where
  ret : Int
  isRetransmit : Bool
  isDupAck : Bool
  ft : FlowTracker
  statics : AckStatics

def FlowRecord.withValue (f : FlowValue → FlowValue) (r : FlowRecord) : FlowRecord :=
  { r with value := f r.value }

def checkPureAck (ft : FlowTracker) (statics : AckStatics) (i : Nat) (seqNum : UInt32) :
    RetransmitCheck :=
  let idx := statics.flowIdx % 4096
  let dup := statics.lastAckPerFlow idx == seqNum && seqNum != 0
  { ret := 0
    isRetransmit := false
    isDupAck := dup
    ft := if dup then ft.modifyRecord i (.withValue fun v => { v with dupAcks := v.dupAcks + 1 }) else ft
    statics := { lastAckPerFlow := fun j => if j = idx then seqNum else statics.lastAckPerFlow j
                 flowIdx := statics.flowIdx + 1 } }

def flowTrackerCheckTcpRetransmit (ft : FlowTracker) (statics : AckStatics) (now : UInt64)
    (key : FlowKey) (seqNum : UInt32) (pktLen : UInt16) (tcpFlags : UInt8) : RetransmitCheck :=
  match findRecord ft key now with
  | (none, ft) => ⟨-1, false, false, ft, statics⟩
  | (some i, ft) =>
    let consumesSeq := tcpFlags &&& TCP_FLAG_SYN != 0 || tcpFlags &&& TCP_FLAG_FIN != 0
    let hasAck := tcpFlags &&& TCP_FLAG_ACK != 0
    let expected := (ft.records[i]?.map (·.value.seqExpected)).getD 0
    if consumesSeq then
      ⟨0, false, false, ft.modifyRecord i (.withValue fun v => { v with seqExpected := seqNum + 1 }),
        statics⟩
    else if pktLen > 0 then
      if expected ≠ 0 ∧ seqNum < expected then
        ⟨0, true, false, ft.modifyRecord i (.withValue fun v => { v with retransmits := v.retransmits + 1 }),
          statics⟩
      else
        ⟨0, false, false,
          ft.modifyRecord i (.withValue fun v => { v with seqExpected := seqNum + pktLen.toUInt32 }), statics⟩
    else if hasAck then checkPureAck ft statics i seqNum
    else ⟨0, false, false, ft, statics⟩

inductive TrackerOp where
  | update (clock : Nat → UInt64) (entries : List ProcNetEntry)
  | updateSingle (ts now : UInt64) (key : FlowKey) (bytes : UInt64) (probeId : CStr)
  | checkTcpRetransmit (now : UInt64) (key : FlowKey) (seqNum : UInt32) (pktLen : UInt16) (tcpFlags : UInt8)
  | getEvents (maxEvents : Int)
  | flush
  | cleanup (ts maxAgeNs : UInt64)

structure TrackerState where
  ft : FlowTracker
  statics : AckStatics := {}

def TrackerState.step (s : TrackerState) : TrackerOp → TrackerState
  | .update clock entries => { s with ft := flowTrackerUpdate s.ft clock entries }
  | .updateSingle ts now key bytes probeId =>
    { s with ft := flowTrackerUpdateSingle s.ft ts now key bytes probeId }
  | .checkTcpRetransmit now key seqNum pktLen tcpFlags =>
    let result := flowTrackerCheckTcpRetransmit s.ft s.statics now key seqNum pktLen tcpFlags
    ⟨result.ft, result.statics⟩
  | .getEvents _ => s
  | .flush => { s with ft := flowTrackerFlush s.ft }
  | .cleanup ts maxAgeNs => { s with ft := flowTrackerCleanup s.ft ts maxAgeNs }

def TrackerState.run (s : TrackerState) (ops : List TrackerOp) : TrackerState := ops.foldl step s

end StbEbpf.Probe
