import StbEbpf.Probe.Delivery
import StbEbpf.Probe.LoaderInit
import StbEbpf.Probe.PacketLoop
import StbEbpf.Probe.ProcNet

/-!
A whole iteration of the loop in `src/main.c`: the traffic is read, `/proc/net` is polled, and what the tracker has
collected goes to the serializer. The event buffer is sized for more than one iteration can bring.
-/

namespace StbEbpf.Probe
open CText Access Program

/-! ### The loader -/

/-- What the loop looks at of the loader's result. -/
structure LoaderStatus where
  perfMapFd : Int
  useBpf : Bool

def loaderStatus (elf : Loading.ElfEnd) (answers : Loading.Answers) : LoaderStatus :=
  let (ret, loader) := (Loading.bpfLoaderInit elf answers []).1
  { perfMapFd := loader.status.perfMapFd, useBpf := ret = 0 }

/-- The perf map is not searched for, so that its descriptor stays -1. -/
theorem loaderStatus_perfMapFd (elf : Loading.ElfEnd) (answers : Loading.Answers) :
    (loaderStatus elf answers).perfMapFd = -1 := by
  unfold loaderStatus
  cases loaded : answers.progLoad with
  | none => rw [Loading.init_unloaded elf loaded]; rfl
  | some prog =>
    rw [Loading.init_loaded elf loaded]
    cases answers.socket with
    | none => rfl
    | some sock =>
      dsimp only
      split <;> rfl

/-! ### Traffic -/

/-- A frame as `recvfrom` returns it, with the clock readings taken for it and the contents of `buf`. -/
structure Received where
  frame : Bytes
  fits : frame.length ≤ 2048
  clock : FrameClock
  buf : HttpBuf

/-- An event of the perf buffer. -/
structure PerfEvent where
  pkt : PktEvent
  updated : UInt64
  activated : UInt64

def readBpfEvents (status : LoaderStatus) (probeId : CStr) (events : List PerfEvent) (tracker : TrackerState) :
    Nat × TrackerState :=
  if status.perfMapFd < 0 then (0, tracker)
  else
    let read := events.filter fun event => event.pkt.timestampNs ≠ 0
    (read.length, tracker.run (read.map fun event =>
      .updateSingle event.updated event.activated event.pkt.flowKey event.pkt.pktLen.toUInt64 probeId))

/-- The raw-packet loop: the list ends where `recvfrom` has nothing more or the program is stopped. -/
def rawLoop (probeId : CStr) : List Received → Nat → LoopState → Checked LoopState
  | [], _, s => pure s
  | received :: rest, packets, s =>
    if packets < 1000 then do
      match ← processFrame probeId received.buf received.clock received.frame s with
      | none => rawLoop probeId rest packets s
      | some outcome => rawLoop probeId rest (packets + 1) outcome.next
    else pure s

structure Round where
  perf : List PerfEvent
  frames : List Received
  files : ProcFiles
  procClock : Nat → UInt64
  nowNs : UInt64
  metric : HostMetric
  cleanupNs : UInt64
  kernel : Kernel

def readTraffic (status : LoaderStatus) (probeId : CStr) (round : Round) (s : LoopState) : Checked LoopState :=
  if status.useBpf then
    let read := readBpfEvents status probeId round.perf s.tracker
    rawLoop probeId round.frames read.1 { s with tracker := read.2 }
  else pure s

/-! ### The iteration -/

structure ProbeState where
  main : MainState
  anomaly : AnomalyDetector
  entries : Entries

def Round.turn (round : Round) (poll : ProcPoll) : Turn where
  captured := [.update round.procClock poll.found]
  nowNs := round.nowNs
  metric := round.metric
  cleanupNs := round.cleanupNs
  kernel := round.kernel

/-- `none` when the iteration is left inside a call that does not return. -/
def iteration (depth : Nat) (status : LoaderStatus) (probeId : CStr) (round : Round) (s : ProbeState) :
    Checked (Option ProbeState) := do
  let traffic ← readTraffic status probeId round ⟨s.main.tracker, s.anomaly⟩
  let poll ← pollProcNet round.files s.entries
  let ended := mainTurn depth probeId (round.turn poll) { s.main with tracker := traffic.tracker }
  return ended.1.map fun _ => ⟨ended.2, traffic.anomaly, poll.entries⟩

def probeRun (depth : Nat) (status : LoaderStatus) (probeId : CStr) :
    List Round → ProbeState → Checked (Option ProbeState)
  | [], s => pure (some s)
  | round :: rest, s => do
    match ← iteration depth status probeId round s with
    | none => return none
    | some t => probeRun depth status probeId rest t

/-- The state before the loop; `entries` holds what the stack held. -/
def probeStart (client : TcpClient) (first : Kernel) (entries : Entries) : ProbeState where
  main := (mainStart first (mainInit client)).2
  anomaly := anomalyDetectorCreate
  entries := entries

/-! ### The iteration by its events -/

/-- Reporting by the events that are to be reported, whatever the tracker holds. -/
def reporting (flush : Tcp Int) (probeId : CStr) (metric : Option HostMetric) (accepted : List FlowEvent) : Main Unit := do
  if accepted ≠ [] ∨ metric.isSome then
    let json := serializeBatch accepted metric probeId (MAX_JSON_LEN * 16)
    modify (flushTracker metric)
    if json.written > 0 then sendJson flush (json.output.read json.written) accepted.length

/-- The iteration as it is to be: these events are serialized, and no others. -/
def iterationReporting (depth : Nat) (status : LoaderStatus) (probeId : CStr) (round : Round) (accepted : List FlowEvent)
    (s : ProbeState) : Checked (Option ProbeState) := do
  let traffic ← readTraffic status probeId round ⟨s.main.tracker, s.anomaly⟩
  let poll ← pollProcNet round.files s.entries
  let reported : Main Unit := do
    modify (capture (round.turn poll))
    reporting (tcpClientFlush depth) probeId (← collectMetric (round.turn poll)) accepted
  let ended := reported { s.main with tracker := traffic.tracker }
  return ended.1.map fun _ => ⟨ended.2, traffic.anomaly, poll.entries⟩

/-! ### The calls of the tracker -/

def frameCalls (probeId : CStr) (clock : FrameClock) (analysis : FrameAnalysis) : List TrackerOp :=
  .updateSingle clock.updated clock.activated analysis.pkt.flowKey analysis.pkt.pktLen.toUInt64 probeId ::
    (analysis.segment.toList.map fun segment =>
      .checkTcpRetransmit clock.checked analysis.pkt.flowKey segment.seqNum segment.payloadLen segment.tcpFlags)

def rawCalls (probeId : CStr) : List Received → Nat → Checked (List TrackerOp)
  | [], _ => pure []
  | received :: rest, packets =>
    if packets < 1000 then do
      match ← analyzeFrame received.frame received.clock.received probeId received.buf with
      | none => rawCalls probeId rest packets
      | some analysis => return frameCalls probeId received.clock analysis ++ (← rawCalls probeId rest (packets + 1))
    else pure []

def trafficCalls (status : LoaderStatus) (probeId : CStr) (round : Round) : Checked (List TrackerOp) :=
  if status.useBpf then rawCalls probeId round.frames 0 else pure []

/-- The calls that one iteration makes of the tracker before it hands over the events. -/
def trackerCalls (status : LoaderStatus) (probeId : CStr) (round : Round) (entries : Entries) :
    Checked (List TrackerOp) := do
  let traffic ← trafficCalls status probeId round
  let poll ← pollProcNet round.files entries
  return traffic ++ [.update round.procClock poll.found]

theorem checkSegment_run (clock : FrameClock) (pkt : PktEvent) (segment : Option TcpSegment) (tracker : TrackerState)
    (flow : FlowEvent) :
    (checkSegment clock pkt segment tracker flow).1 =
      tracker.run (segment.toList.map fun segment =>
        .checkTcpRetransmit clock.checked pkt.flowKey segment.seqNum segment.payloadLen segment.tcpFlags) := by
  cases segment <;> rfl

/-- A frame is dropped, or the tracker takes its calls. -/
theorem processFrame_calls (probeId : CStr) (received : Received) (s : LoopState) :
    (analyzeFrame received.frame received.clock.received probeId received.buf = .ok none ∧
      processFrame probeId received.buf received.clock received.frame s = .ok none) ∨
    ∃ analysis outcome,
      analyzeFrame received.frame received.clock.received probeId received.buf = .ok (some analysis) ∧
      processFrame probeId received.buf received.clock received.frame s = .ok (some outcome) ∧
      outcome.next.tracker = s.tracker.run (frameCalls probeId received.clock analysis) := by
  obtain ⟨analysis, analyzed, -⟩ := analyzeFrame_completes received.frame received.clock.received probeId received.buf
  unfold processFrame
  rw [analyzed, ok_bind]
  cases analysis with
  | none => exact Or.inl ⟨rfl, rfl⟩
  | some analysis => exact Or.inr ⟨analysis, _, rfl, rfl, checkSegment_run _ _ _ _ _⟩

/-- Calls that bring at most so many events and flush nothing. -/
structure Brings (most : Nat) (calls : List TrackerOp) : Prop where
  weight : (calls.map TrackerOp.weight).sum ≤ most
  keep : ∀ call ∈ calls, call ≠ .flush

theorem brings_nothing (most : Nat) : Brings most [] := ⟨Nat.zero_le _, nofun⟩

theorem brings_append {one two : Nat} {first second : List TrackerOp} (left : Brings one first)
    (right : Brings two second) : Brings (one + two) (first ++ second) := by
  constructor
  · have leftWeight := left.weight
    have rightWeight := right.weight
    rw [List.map_append, List.sum_append]
    omega
  · intro call member
    rcases List.mem_append.mp member with early | late
    · exact left.keep call early
    · exact right.keep call late

theorem frameCalls_brings (probeId : CStr) (clock : FrameClock) (analysis : FrameAnalysis) :
    Brings 1 (frameCalls probeId clock analysis) := by
  unfold frameCalls
  cases analysis.segment with
  | none => exact ⟨Nat.le_refl 1, fun call member => by cases List.mem_singleton.mp member; nofun⟩
  | some segment =>
    refine ⟨Nat.le_refl 1, fun call member => ?_⟩
    rcases List.mem_cons.mp member with rfl | later
    · nofun
    · cases List.mem_singleton.mp later
      nofun

theorem rawLoop_calls (probeId : CStr) (frames : List Received) (packets : Nat) (s : LoopState) :
    ∃ calls t, rawCalls probeId frames packets = .ok calls ∧ rawLoop probeId frames packets s = .ok t ∧
      t.tracker = s.tracker.run calls ∧ Brings (1000 - packets) calls := by
  induction frames generalizing packets s with
  | nil => exact ⟨[], s, rfl, rfl, rfl, brings_nothing _⟩
  | cons received rest ih =>
    unfold rawCalls rawLoop
    by_cases room : packets < 1000
    · rw [if_pos room, if_pos room]
      rcases processFrame_calls probeId received s with ⟨analyzed, processed⟩ | ⟨a, o, analyzed, processed, tracker⟩
      · rw [analyzed, processed]
        exact ih packets s
      · obtain ⟨calls, t, read, looped, reached, brings⟩ := ih (packets + 1) o.next
        rw [analyzed, processed]
        refine ⟨frameCalls probeId received.clock a ++ calls, t, ?_, looped, ?_, ?_⟩
        · rw [ok_bind]
          dsimp only
          rw [read]
          rfl
        · rw [reached, tracker]
          exact List.foldl_append.symm
        · have both := brings_append (frameCalls_brings probeId received.clock a) brings
          rwa [show 1 + (1000 - (packets + 1)) = 1000 - packets by omega] at both
    · rw [if_neg room, if_neg room]
      exact ⟨[], s, rfl, rfl, rfl, brings_nothing _⟩

theorem readTraffic_calls {status : LoaderStatus} (noPerf : status.perfMapFd = -1) (probeId : CStr) (round : Round)
    (s : LoopState) :
    ∃ calls t, trafficCalls status probeId round = .ok calls ∧
      readTraffic status probeId round s = .ok t ∧ t.tracker = s.tracker.run calls ∧ Brings 1000 calls := by
  have nothing : readBpfEvents status probeId round.perf s.tracker = (0, s.tracker) := by
    unfold readBpfEvents
    rw [noPerf]
    rfl
  unfold trafficCalls readTraffic
  split
  · rw [nothing]
    exact rawLoop_calls probeId round.frames 0 s
  · exact ⟨[], s, rfl, rfl, rfl, brings_nothing _⟩

/-! ### The event buffer over the iterations -/

/-- The program leaves the tracker alone. -/
def LeavesTracker (s t : MainState) : Prop := t.tracker = s.tracker

theorem leaves_bind {α β : Type} {m : Main α} {next : α → Main β} {s : MainState} (first : LeavesTracker s (m s).2)
    (rest : ∀ value t, LeavesTracker t (next value t).2) : LeavesTracker s ((m >>= next) s).2 :=
  bind_related (R := LeavesTracker) (fun one two => two.trans one) first fun value t _ => rest value t

theorem onTcp_leaves {α : Type} (m : Tcp α) (s : MainState) : LeavesTracker s (onTcp m s).2 := rfl

theorem sendBatch_leaves {α : Type} (m : Tcp α) (s : MainState) : LeavesTracker s (sendBatch m s).2 := rfl

theorem sendJson_leaves (flush : Tcp Int) (data : Bytes) (count : Int) (s : MainState) :
    LeavesTracker s (sendJson flush data count s).2 := by
  have connects (t : MainState) : LeavesTracker t (ensureConnected flush t).2 := by
    apply leaves_bind (onTcp_leaves _ t)
    intro connected u
    split
    · exact leaves_bind (onTcp_leaves _ u) fun _ v => rfl
    · rfl
  apply leaves_bind (connects s)
  intro _ t
  apply leaves_bind (onTcp_leaves _ t)
  intro connected u
  split
  · exact leaves_bind (sendBatch_leaves _ u) fun _ v => rfl
  · rfl

/-- A tracker between two iterations. -/
structure Ready (s : MainState) : Prop where
  table : s.tracker.ft.WellFormed MAX_FLOWS
  empty : s.tracker.ft.events = []

theorem reportEvents_ready (flush : Tcp Int) (probeId : CStr) (metric : Option HostMetric) {s : MainState}
    (table : s.tracker.ft.WellFormed MAX_FLOWS) : Ready (reportEvents flush probeId metric s).2 := by
  have flushed : Ready (flushTracker metric s) := ⟨step_wellFormed .flush table, rfl⟩
  unfold reportEvents
  rw [get_bind, getEvents_all table]
  dsimp only
  split
  · rw [modify_bind]
    split
    · have left := sendJson_leaves flush
        ((serializeBatch s.tracker.ft.events metric probeId (MAX_JSON_LEN * 16)).output.read
          (serializeBatch s.tracker.ft.events metric probeId (MAX_JSON_LEN * 16)).written)
        s.tracker.ft.events.length (flushTracker metric s)
      exact ⟨left ▸ flushed.table, left ▸ flushed.empty⟩
    · exact flushed
  · rename_i idle
    have none_ : ¬ ((s.tracker.ft.events.length : Int) > 0) := fun some_ => idle (Or.inl some_)
    have empty : s.tracker.ft.events = [] := List.length_eq_zero_iff.mp (by omega)
    exact ⟨table, empty⟩

theorem collectMetric_events (turn : Turn) {s : MainState} (table : s.tracker.ft.WellFormed MAX_FLOWS) :
    (collectMetric turn s).2.tracker.ft.WellFormed MAX_FLOWS ∧
      (collectMetric turn s).2.tracker.ft.events = s.tracker.ft.events := by
  unfold collectMetric
  split
  · exact ⟨step_wellFormed _ table, rfl⟩
  · exact ⟨table, rfl⟩

theorem collectMetric_some (turn : Turn) (s : MainState) : ∃ metric t, collectMetric turn s = (some metric, t) := by
  unfold collectMetric
  split
  · exact ⟨_, _, rfl⟩
  · exact ⟨_, _, rfl⟩

theorem mainTurn_ready (depth : Nat) (probeId : CStr) (turn : Turn) {s : MainState}
    (table : s.tracker.ft.WellFormed MAX_FLOWS) : Ready (mainTurn depth probeId turn s).2 := by
  have captured : (capture turn s).tracker.ft.WellFormed MAX_FLOWS := run_wellFormed _ table
  obtain ⟨kept, -⟩ := collectMetric_events turn captured
  obtain ⟨metric, t, collected⟩ := collectMetric_some turn (capture turn s)
  unfold mainTurn
  rw [modify_bind, bind_some collected]
  rw [collected] at kept
  exact reportEvents_ready _ probeId metric kept

theorem reportEvents_reporting (flush : Tcp Int) (probeId : CStr) (metric : Option HostMetric) {s : MainState}
    (table : s.tracker.ft.WellFormed MAX_FLOWS) :
    reportEvents flush probeId metric s = reporting flush probeId metric s.tracker.ft.events s := by
  have due : ((s.tracker.ft.events.length : Int) > 0 ∨ metric.isSome) ↔ (s.tracker.ft.events ≠ [] ∨ metric.isSome) := by
    rw [← List.length_pos_iff, gt_iff_lt, Int.natCast_pos]
  unfold reportEvents reporting
  rw [get_bind, getEvents_all table]
  dsimp only
  rw [if_congr due rfl rfl]

theorem mainTurn_reporting (depth : Nat) (probeId : CStr) {turn : Turn} {s : MainState}
    (table : (capture turn s).tracker.ft.WellFormed MAX_FLOWS) :
    mainTurn depth probeId turn s = (do
      modify (capture turn)
      reporting (tcpClientFlush depth) probeId (← collectMetric turn) (capture turn s).tracker.ft.events : Main Unit) s := by
  obtain ⟨kept, events⟩ := collectMetric_events turn table
  obtain ⟨metric, t, collected⟩ := collectMetric_some turn (capture turn s)
  rw [collected] at kept events
  unfold mainTurn
  rw [modify_bind, modify_bind, bind_some collected, bind_some collected, ← events]
  exact reportEvents_reporting (tcpClientFlush depth) probeId metric kept

/-- The accepted events of an iteration, from a tracker whose buffer is empty, are all there afterwards. -/
theorem calls_arrive {tracker : TrackerState} {calls : List TrackerOp} {most : Nat}
    (table : tracker.ft.WellFormed MAX_FLOWS) (empty : tracker.ft.events = []) (brings : Brings most calls)
    (room : most ≤ MAX_FLOWS * 2) : (tracker.run calls).ft.events = offeredRun tracker calls := by
  have length := (offeredRun_length tracker calls).trans brings.weight
  have arrived := (run_appends tracker calls brings.keep).arrive (by
    rw [empty, table.capacity, List.length_nil]
    omega)
  rwa [empty] at arrived

/-- What one iteration does from a state between two of them: the poll keeps to the array, the tracker takes the calls,
and what is serialized is all that they gave to `add_event`. -/
structure IterationSound (depth : Nat) (status : LoaderStatus) (probeId : CStr) (round : Round) (s : ProbeState) : Prop where
  polled : Safe (pollProcNet round.files s.entries) fun poll => poll.Fits ∧ 0 ≤ remaining poll.tcp4 ∧ 0 ≤ remaining poll.tcp6
  handed : Safe (trackerCalls status probeId round s.entries) fun calls =>
    Safe (readTraffic status probeId round ⟨s.main.tracker, s.anomaly⟩) fun traffic =>
      Safe (pollProcNet round.files s.entries) fun poll =>
        (capture (round.turn poll) { s.main with tracker := traffic.tracker }).tracker = s.main.tracker.run calls ∧
          iteration depth status probeId round s =
            iterationReporting depth status probeId round (offeredRun s.main.tracker calls) s

theorem iteration_sound (depth : Nat) {status : LoaderStatus} (noPerf : status.perfMapFd = -1) (probeId : CStr)
    (round : Round) {s : ProbeState} (ready : Ready s.main) : IterationSound depth status probeId round s := by
  obtain ⟨poll, polled, fits⟩ := pollProcNet_fits round.files s.entries
  obtain ⟨calls, traffic, called, read, reached, brings⟩ :=
    readTraffic_calls noPerf probeId round ⟨s.main.tracker, s.anomaly⟩
  have found := fits.found_length
  have whole : Brings (1000 + MAX_FLOWS / 2) (calls ++ [.update round.procClock poll.found]) := by
    apply brings_append brings
    exact ⟨by simpa [TrackerOp.weight] using found, fun call member => by cases List.mem_singleton.mp member; nofun⟩
  have udp4 := fits.udp4
  have udp6 := fits.udp6
  constructor
  · refine ⟨poll, polled, fits, ?_, ?_⟩
    · rw [remaining_range (by omega)]
      omega
    · rw [remaining_range (by omega)]
      omega
  · have all : trackerCalls status probeId round s.entries = .ok (calls ++ [.update round.procClock poll.found]) := by
      unfold trackerCalls
      rw [called, ok_bind, polled, ok_bind]
      rfl
    have captured : (capture (round.turn poll) { s.main with tracker := traffic.tracker }).tracker =
        s.main.tracker.run (calls ++ [.update round.procClock poll.found]) := by
      unfold capture
      rw [reached]
      exact List.foldl_append.symm
    refine ⟨_, all, traffic, read, poll, polled, captured, ?_⟩
    have arrived := calls_arrive ready.table ready.empty whole (by decide)
    have table := run_wellFormed (calls ++ [.update round.procClock poll.found]) ready.table
    rw [← captured] at table arrived
    have same := mainTurn_reporting depth probeId table
    rw [arrived] at same
    unfold iteration iterationReporting
    rw [read, ok_bind, ok_bind, polled, ok_bind, ok_bind]
    dsimp only
    rw [same]

theorem iteration_ready (depth : Nat) {status : LoaderStatus} (noPerf : status.perfMapFd = -1) (probeId : CStr)
    (round : Round) {s : ProbeState} (ready : Ready s.main) :
    Safe (iteration depth status probeId round s) fun reached => ∀ t ∈ reached, Ready t.main := by
  obtain ⟨poll, polled, -⟩ := pollProcNet_fits round.files s.entries
  obtain ⟨calls, traffic, -, read, reached, -⟩ :=
    readTraffic_calls noPerf probeId round ⟨s.main.tracker, s.anomaly⟩
  have table : traffic.tracker.ft.WellFormed MAX_FLOWS := by
    rw [reached]
    exact run_wellFormed calls ready.table
  unfold iteration
  rw [read, ok_bind, polled, ok_bind]
  apply safe_pure
  intro t member
  obtain ⟨_, -, rfl⟩ := Option.mem_map.mp member
  exact mainTurn_ready depth probeId (round.turn poll) table

theorem probeRun_ready (depth : Nat) {status : LoaderStatus} (noPerf : status.perfMapFd = -1) (probeId : CStr)
    (rounds : List Round) {s : ProbeState} (ready : Ready s.main) :
    Safe (probeRun depth status probeId rounds s) fun reached => ∀ t ∈ reached, Ready t.main := by
  induction rounds generalizing s with
  | nil =>
    apply safe_pure
    rintro t ⟨⟩
    exact ready
  | cons round rest ih =>
    apply safe_bind (iteration_ready depth noPerf probeId round ready)
    intro reached kept
    cases reached with
    | none => exact safe_pure fun t member => absurd member (Option.not_mem_none t)
    | some t => exact ih (kept t rfl)

theorem probeStart_ready (client : TcpClient) (first : Kernel) (entries : Entries) :
    Ready (probeStart client first entries).main := by
  have connected (s : MainState) : LeavesTracker s ((onTcp tcpClientConnect >>= fun _ => pure ()) s).2 :=
    leaves_bind (onTcp_leaves tcpClientConnect s) fun _ _ => rfl
  have tracker : (probeStart client first entries).main.tracker = (mainInit client).tracker := connected _
  constructor
  · rw [tracker]
    exact flowTrackerCreate_wellFormed MAX_FLOWS
  · rw [tracker]
    rfl

/-- In every iteration the buffer starts empty, the poll of `/proc/net` keeps to the array, and every event that the
iteration gives to `add_event` is handed to the serializer, once and in order. -/
theorem every_event_handed_over (depth : Nat) (elf : Loading.ElfEnd) (answers : Loading.Answers) (probeId : CStr)
    (client : TcpClient) (first : Kernel) (entries : Entries) (rounds : List Round) (next : Round) :
    Safe (probeRun depth (loaderStatus elf answers) probeId rounds (probeStart client first entries)) fun reached =>
      ∀ s ∈ reached, s.main.tracker.ft.events = [] ∧
        IterationSound depth (loaderStatus elf answers) probeId next s := by
  have noPerf := loaderStatus_perfMapFd elf answers
  apply safe_weaken (probeRun_ready depth noPerf probeId rounds (probeStart_ready client first entries))
  intro reached ready s member
  exact ⟨(ready s member).empty, iteration_sound depth noPerf probeId next (ready s member)⟩

end StbEbpf.Probe
