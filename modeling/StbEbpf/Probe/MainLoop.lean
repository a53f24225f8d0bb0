import StbEbpf.Probe.FlowTracker
import StbEbpf.Probe.SerializerText
import StbEbpf.Probe.TcpClient

/-!
The main loop of `src/main.c`, from the captured traffic to the relay. What is captured in one turn of the loop, the
clock readings and the answers of the kernel are given with the turn.
-/

namespace StbEbpf.Probe
open CText Memory Program

def METRIC_INTERVAL_NS : UInt64 := 30000000000

/-- The calls of the capture part: packets and the poll of `/proc/net`. -/
inductive CaptureOp where
  | update (clock : Nat → UInt64) (entries : List ProcNetEntry)
  | updateSingle (ts now : UInt64) (key : FlowKey) (bytes : UInt64) (probeId : CStr)
  | checkTcpRetransmit (now : UInt64) (key : FlowKey) (seqNum : UInt32) (pktLen : UInt16) (tcpFlags : UInt8)

def CaptureOp.trackerOp : CaptureOp → TrackerOp
  | .update clock entries => .update clock entries
  | .updateSingle ts now key bytes probeId => .updateSingle ts now key bytes probeId
  | .checkTcpRetransmit now key seqNum pktLen tcpFlags => .checkTcpRetransmit now key seqNum pktLen tcpFlags

structure Turn where
  captured : List CaptureOp
  nowNs : UInt64
  metric : HostMetric
  cleanupNs : UInt64
  kernel : Kernel

/-- What one `flow_tracker_flush` took out of the tracker, and the sends made for it. -/
structure Batch where
  removed : List FlowEvent
  metric : Option HostMetric
  calls : List SendCall := []

/-- `batches` is history, the newest first. -/
structure MainState where
  tracker : TrackerState
  tcp : TcpState
  lastMetricNs : UInt64 := 0
  totalEvents : UInt64 := 0
  batches : List Batch := []

abbrev Main := Program MainState

def onTcp {α : Type} (m : Tcp α) : Main α := fun s =>
  match m s.tcp with
  | (ret, tcp) => (ret, { s with tcp })

def addCalls (calls : List SendCall) : List Batch → List Batch
  | [] => []
  | batch :: older => { batch with calls := batch.calls ++ calls } :: older

def sendBatch {α : Type} (m : Tcp α) : Main α := fun s =>
  match m s.tcp with
  | (ret, tcp) => (ret, { s with tcp, batches := addCalls (tcp.calls.drop s.tcp.calls.length) s.batches })

def capture (turn : Turn) (s : MainState) : MainState :=
  { s with
    tracker := s.tracker.run (turn.captured.map CaptureOp.trackerOp)
    tcp := { s.tcp with kernel := turn.kernel } }

/-- The metric of this turn, if one is due; stale flows are evicted with it. -/
def collectMetric (turn : Turn) : Main (Option HostMetric) := fun s =>
  if turn.nowNs - s.lastMetricNs ≥ METRIC_INTERVAL_NS then
    (some (some turn.metric),
      { s with
        lastMetricNs := turn.nowNs
        tracker := s.tracker.step
          (.cleanup turn.cleanupNs (UInt64.ofNat (FLOW_CLEANUP_INTERVAL_S * 1000000000))) })
  else (some none, s)

def flushTracker (metric : Option HostMetric) (s : MainState) : MainState :=
  { s with
    tracker := s.tracker.step .flush
    batches := { removed := s.tracker.ft.events, metric } :: s.batches }

def ensureConnected (flush : Tcp Int) : Main Unit := do
  if ¬ (← onTcp tcpClientIsConnected) then
    let _ ← onTcp (tcpClientReconnect flush)

def sendJson (flush : Tcp Int) (data : Bytes) (eventCount : Int) : Main Unit := do
  ensureConnected flush
  if ← onTcp tcpClientIsConnected then
    let _ ← sendBatch (tcpClientSend flush data)
    modify fun s => { s with totalEvents := s.totalEvents + UInt64.ofInt eventCount }

/-- The tracker is flushed once the batch is serialized, before anything is known about the connection. -/
def reportEvents (flush : Tcp Int) (probeId : CStr) (metric : Option HostMetric) : Main Unit := do
  let (eventCount, events) := flowTrackerGetEvents (← get).tracker.ft (MAX_FLOWS * 2)
  if eventCount > 0 ∨ metric.isSome then
    let json := serializeBatch events metric probeId (MAX_JSON_LEN * 16)
    modify (flushTracker metric)
    if json.written > 0 then sendJson flush (json.output.read json.written) eventCount

def mainTurn (depth : Nat) (probeId : CStr) (turn : Turn) : Main Unit := do
  modify (capture turn)
  let metric ← collectMetric turn
  reportEvents (tcpClientFlush depth) probeId metric

/-- Before the loop: one attempt to connect. -/
def mainStart (first : Kernel) : Main Unit := do
  modify fun s => { s with tcp := { s.tcp with kernel := first } }
  let _ ← onTcp tcpClientConnect

def mainRun (depth : Nat) (probeId : CStr) (first : Kernel) (turns : List Turn) : Main Unit := do
  mainStart first
  turns.forM (mainTurn depth probeId)

def mainInit (client : TcpClient) : MainState where
  tracker := ⟨flowTrackerCreate MAX_FLOWS, {}⟩
  tcp := { client }

end StbEbpf.Probe
